import Mathlib.Data.List.Perm.Basic
import RCSdk.Lib.Words
import RCSdk.Spec.StringMethods

/-!
# What the text of an array of parameters says

`RC_paramsString` writes `&` in front of a string if anything has been written before it, so the
empty strings that are sorted to the front leave nothing behind (`paramsString_toList`).

* `paramsString_iff`: the text is the sorted strings joined by `&`, and the strings can be read back
  from it, exactly when the empty string does not come first of several.
-/

namespace RCSdk

namespace NSArray

/-- The parts of a text at `&`. -/
def componentsSeparatedByAmp (s : String) : List String := (s.toList.splitOn '&').map String.ofList

/-- The empty string is one of several, and none is less. -/
def EmptyFirst (compare : String → String → Ordering) (array : List String) : Prop :=
  1 < array.length ∧ "" ∈ array ∧ ∀ s ∈ array, (compare "" s).isLE

theorem length_eq_zero_iff (s : String) : NSString.length s = 0 ↔ s.toList = [] := by
  unfold NSString.length Encodings.utf16Length
  cases hs : s.toList with
  | nil => simp
  | cons c cs =>
    have hc := (Encodings.utf16Size_le c).1
    simp only [List.map_cons, List.sum_cons, List.cons_ne_nil, iff_false]
    omega

/-- What is written, as characters. -/
theorem foldl_toList (array : List String) (text : String) :
    (array.foldl (fun paramString obj =>
      if NSString.length paramString = 0 then paramString ++ obj
      else paramString ++ ("&" ++ obj)) text).toList =
      Words.written '&' text.toList (array.map String.toList) := by
  induction array generalizing text with
  | nil => rfl
  | cons s array ih =>
    rw [List.foldl_cons, ih, List.map_cons, Words.written_cons]
    by_cases htext : text.toList = []
    · rw [if_pos ((length_eq_zero_iff text).2 htext), if_pos htext, String.toList_append]
    · rw [if_neg (fun h => htext ((length_eq_zero_iff text).1 h)), if_neg htext,
        String.toList_append, String.toList_append]
      rfl

section Sorted

variable (compare : String → String → Ordering) (array : List String)

theorem paramsString_toList :
    (RC_paramsString compare array).toList =
      Words.written '&' [] ((sortedArrayUsingSelector compare array).map String.toList) :=
  foldl_toList _ ""

theorem sorted_perm : (sortedArrayUsingSelector compare array).Perm array :=
  List.mergeSort_perm _ _

variable [Std.TransCmp compare]

theorem sorted_pairwise :
    (sortedArrayUsingSelector compare array).Pairwise fun s t => (compare s t).isLE := by
  refine List.pairwise_mergeSort (fun s t u => Std.TransCmp.isLE_trans) (fun s t => ?_) array
  rw [Bool.or_eq_true]
  by_cases h : (compare s t).isLE
  · exact .inl h
  · have hts : compare t s = .lt := Std.OrientedCmp.lt_of_not_isLE h
    exact .inr (by rw [hts]; rfl)

variable [Std.LawfulEqCmp compare]

/-- Strings that come before each other are equal. -/
theorem eq_of_isLE {s t : String} (hst : (compare s t).isLE) (hts : (compare t s).isLE) : s = t :=
  Std.LawfulEqCmp.eq_of_compare (Std.OrientedCmp.isLE_antisymm hst hts)

/-- **The order the strings are given in does not show.** -/
theorem sorted_congr {array' : List String} (hp : array'.Perm array) :
    sortedArrayUsingSelector compare array' = sortedArrayUsingSelector compare array := by
  refine List.Perm.eq_of_pairwise (fun s t _ _ => eq_of_isLE compare) (sorted_pairwise compare _)
    (sorted_pairwise compare _) ?_
  exact (sorted_perm compare array').trans (hp.trans (sorted_perm compare array).symm)

/-- The string sorted to the front is the one that is less than all. -/
theorem sorted_head_iff (s : String) :
    (sortedArrayUsingSelector compare array).head? = some s ↔
      s ∈ array ∧ ∀ t ∈ array, (compare s t).isLE := by
  have hmem : ∀ t, t ∈ sortedArrayUsingSelector compare array ↔ t ∈ array :=
    fun t => (sorted_perm compare array).mem_iff
  have hsorted := sorted_pairwise compare array
  cases hl : sortedArrayUsingSelector compare array with
  | nil =>
    rw [hl] at hmem
    refine iff_of_false (by simp) fun h => ?_
    exact List.not_mem_nil ((hmem s).2 h.1)
  | cons u rest =>
    rw [hl] at hmem hsorted
    rw [List.pairwise_cons] at hsorted
    rw [List.head?_cons, Option.some_inj]
    constructor
    · rintro rfl
      refine ⟨(hmem u).1 List.mem_cons_self, fun t ht => ?_⟩
      rcases List.mem_cons.1 ((hmem t).2 ht) with rfl | ht
      · exact Std.ReflCmp.isLE_rfl
      · exact hsorted.1 t ht
    · rintro ⟨hs, hleast⟩
      rcases List.mem_cons.1 ((hmem s).2 hs) with rfl | hrest
      · rfl
      · exact eq_of_isLE compare (hsorted.1 s hrest) (hleast u ((hmem u).1 List.mem_cons_self))

theorem emptyFirst_iff :
    EmptyFirst compare array ↔
      1 < ((sortedArrayUsingSelector compare array).map String.toList).length ∧
        ((sortedArrayUsingSelector compare array).map String.toList).head? = some [] := by
  have hhead : ((sortedArrayUsingSelector compare array).map String.toList).head? = some [] ↔
      (sortedArrayUsingSelector compare array).head? = some "" := by
    rw [List.head?_map, Option.map_eq_some_iff]
    constructor
    · rintro ⟨s, hs, hnil⟩
      rw [hs, Option.some_inj]
      exact String.toList_inj.1 hnil
    · exact fun h => ⟨"", h, rfl⟩
  rw [hhead, sorted_head_iff, List.length_map, (sorted_perm compare array).length_eq]
  rfl

/-- **The text is the sorted strings joined by `&` exactly when the empty string does not come
first of several.** It is the same for every order of the strings, and where no string holds `&`,
its parts are the strings in the same case only. -/
theorem paramsString_iff :
    (RC_paramsString compare array = "&".intercalate (sortedArrayUsingSelector compare array) ↔
        ¬ EmptyFirst compare array) ∧
      (∀ array' : List String, array'.Perm array →
        RC_paramsString compare array' = RC_paramsString compare array) ∧
      (array ≠ [] → (∀ s ∈ array, '&' ∉ s.toList) →
        ((componentsSeparatedByAmp (RC_paramsString compare array)).Perm array ↔
          ¬ EmptyFirst compare array)) := by
  have hp := sorted_perm compare array
  have hempty : ¬ EmptyFirst compare array ↔
      ((sortedArrayUsingSelector compare array).map String.toList).length ≤ 1 ∨
        ((sortedArrayUsingSelector compare array).map String.toList).head? ≠ some [] := by
    rw [emptyFirst_iff, not_and_or, not_lt]
  refine ⟨?_, fun array' hp' => ?_, fun hne hamp => ?_⟩
  · rw [hempty, ← String.toList_inj, paramsString_toList, String.toList_intercalate]
    exact Words.written_eq_intercalate_iff _
  · unfold RC_paramsString
    rw [sorted_congr compare array hp']
  · have hwords : (sortedArrayUsingSelector compare array).map String.toList ≠ [] := by
      rw [ne_eq, List.map_eq_nil_iff]
      intro h
      rw [h] at hp
      exact hne hp.symm.eq_nil
    have hd : ∀ w ∈ (sortedArrayUsingSelector compare array).map String.toList, '&' ∉ w := by
      intro w hw
      obtain ⟨s, hs, rfl⟩ := List.mem_map.1 hw
      exact hamp s (hp.mem_iff.1 hs)
    rw [hempty, ← Words.splitOn_written_iff hd hwords, ← paramsString_toList]
    unfold componentsSeparatedByAmp
    have hchars : String.toList ∘ String.ofList = id := funext fun w => String.toList_ofList
    have hstring : String.ofList ∘ String.toList = id := funext fun s => String.ofList_toList
    constructor
    · intro h
      have h := (h.trans hp.symm).map String.toList
      rwa [List.map_map, hchars, List.map_id] at h
    · intro h
      have h := h.map String.ofList
      rw [List.map_map, hstring, List.map_id] at h
      exact h.trans hp

end Sorted

/-- Two parameters, in the order of their code points. -/
theorem paramsString_two :
    RC_paramsString compare ["b=2", "a=1"] =
        "&".intercalate (sortedArrayUsingSelector compare ["b=2", "a=1"]) ∧
      (componentsSeparatedByAmp (RC_paramsString compare ["b=2", "a=1"])).Perm ["b=2", "a=1"] := by
  have hfirst : ¬ EmptyFirst compare ["b=2", "a=1"] := fun h => absurd h.2.1 (by decide)
  obtain ⟨hjoin, -, hparts⟩ := paramsString_iff compare ["b=2", "a=1"]
  exact ⟨hjoin.2 hfirst, (hparts (by decide) (by decide)).2 hfirst⟩

/-- The empty string comes first and leaves nothing behind. -/
theorem paramsString_empty_first :
    RC_paramsString compare ["", "a=1"] = "a=1" ∧
      "&".intercalate (sortedArrayUsingSelector compare ["", "a=1"]) = "&a=1" ∧
      ¬ (componentsSeparatedByAmp (RC_paramsString compare ["", "a=1"])).Perm ["", "a=1"] := by
  have hsorted : sortedArrayUsingSelector compare ["", "a=1"] = ["", "a=1"] :=
    List.mergeSort_of_pairwise (by decide)
  have htext : RC_paramsString compare ["", "a=1"] = "a=1" := by
    unfold RC_paramsString
    rw [hsorted]
    decide
  rw [htext, hsorted]
  decide

end NSArray

end RCSdk
