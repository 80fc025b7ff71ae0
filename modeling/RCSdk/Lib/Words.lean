import Mathlib.Data.List.Basic
import Mathlib.Data.List.Perm.Basic

/-!
# Words and separators

Words written one after the other can be read back when a separator that no word holds
stands between them (`intercalate_inj`), or at the head of what follows (`append_inj_of_head`).
The order they are written in does not show exactly when any two of them commute around
the separator (`intercalate_perm`, `commute_of_intercalate`). Where the separator is written only
behind some text, the words are lost that are empty and come first (`written_nil`).
-/

namespace Words

variable {α : Type*}

/-- A list of words with a separator between them, from the first word on. -/
theorem intercalate_eq_flatMap (d : α) (w : List α) (ws : List (List α)) :
    [d].intercalate (w :: ws) = w ++ ws.flatMap fun v => d :: v := by
  induction ws generalizing w with
  | nil => simp
  | cons v ws ih => rw [List.intercalate_cons_cons, ih]; simp

/-- **Words without the separator can be read back.** -/
theorem intercalate_inj [BEq α] [LawfulBEq α] {d : α} {ws vs : List (List α)}
    (hw : ∀ w ∈ ws, d ∉ w) (hv : ∀ v ∈ vs, d ∉ v) (hws : ws ≠ []) (hvs : vs ≠ [])
    (h : [d].intercalate ws = [d].intercalate vs) : ws = vs := by
  rw [← List.splitOn_intercalate d hw hws, h, List.splitOn_intercalate d hv hvs]

/-- The first part of a text ends where the separator stands first. -/
theorem append_inj_of_head {d : α} {m m' r r' : List α} (hm : d ∉ m) (hm' : d ∉ m')
    (hr : r = [] ∨ r.head? = some d) (hr' : r' = [] ∨ r'.head? = some d)
    (h : m ++ r = m' ++ r') : m = m' ∧ r = r' := by
  induction m generalizing m' with
  | nil =>
    cases m' with
    | nil => exact ⟨rfl, h⟩
    | cons a m' =>
      rcases hr with rfl | hr
      · simp at h
      · rw [List.nil_append] at h
        rw [h, List.cons_append, List.head?_cons, Option.some.injEq] at hr
        exact absurd (hr ▸ List.mem_cons_self) hm'
  | cons a m ih =>
    cases m' with
    | nil =>
      rcases hr' with rfl | hr'
      · simp at h
      · rw [List.nil_append] at h
        rw [← h, List.cons_append, List.head?_cons, Option.some.injEq] at hr'
        exact absurd (hr' ▸ List.mem_cons_self) hm
    | cons b m' =>
      rw [List.cons_append, List.cons_append, List.cons.injEq] at h
      obtain ⟨h1, h2⟩ := ih (fun hd => hm (List.mem_cons_of_mem _ hd))
        (fun hd => hm' (List.mem_cons_of_mem _ hd)) h.2
      exact ⟨by rw [h.1, h1], h2⟩

/-! ## The order of the words -/

/-- Two words that read the same in either order, with the separator between them. -/
def Commutes (d : α) (w v : List α) : Prop := w ++ d :: v = v ++ d :: w

/-- Words that commute may be taken in any order. -/
theorem flatMap_perm {d : α} {ws vs : List (List α)} (hp : ws.Perm vs)
    (hc : ∀ w ∈ ws, ∀ v ∈ ws, Commutes d w v) :
    (ws.flatMap fun v => d :: v) = vs.flatMap fun v => d :: v := by
  induction hp with
  | nil => rfl
  | cons w _ ih =>
    rw [List.flatMap_cons, List.flatMap_cons,
      ih fun u hu v hv => hc u (List.mem_cons_of_mem _ hu) v (List.mem_cons_of_mem _ hv)]
  | swap w v l =>
    have h : v ++ d :: w = w ++ d :: v :=
      hc v List.mem_cons_self w (List.mem_cons_of_mem _ List.mem_cons_self)
    have := congrArg (fun u => d :: u ++ l.flatMap fun v => d :: v) h
    simpa only [List.flatMap_cons, List.cons_append, List.append_assoc] using this
  | trans h₁ _ ih₁ ih₂ =>
    rw [ih₁ hc, ih₂ fun u hu v hv => hc u (h₁.mem_iff.2 hu) v (h₁.mem_iff.2 hv)]

/-- **Words that commute read the same in every order.** -/
theorem intercalate_perm {d : α} {ws vs : List (List α)} (hp : ws.Perm vs)
    (hc : ∀ w ∈ ws, ∀ v ∈ ws, Commutes d w v) : [d].intercalate ws = [d].intercalate vs := by
  have hall := flatMap_perm hp hc
  cases ws with
  | nil => rw [hp.nil_eq]
  | cons w ws =>
    cases vs with
    | nil => exact absurd hp.symm.nil_eq (List.cons_ne_nil _ _).symm
    | cons v vs =>
      -- with a separator in front, nothing tells the first word from the others
      rw [intercalate_eq_flatMap, intercalate_eq_flatMap]
      exact List.tail_eq_of_cons_eq (by simpa only [List.flatMap_cons, List.cons_append] using hall)

/-- Two words in front that may change places commute. -/
theorem commute_of_intercalate {d : α} {w v : List α} {ws : List (List α)}
    (h : [d].intercalate (w :: v :: ws) = [d].intercalate (v :: w :: ws)) : Commutes d w v := by
  rw [intercalate_eq_flatMap, intercalate_eq_flatMap, List.flatMap_cons, List.flatMap_cons,
    ← List.append_assoc, ← List.append_assoc] at h
  exact List.append_cancel_right h

/-! ## Joined by what is written so far -/

/-- The words one after the other, with the separator in front of a word if anything has been
written before it. -/
def written (d : α) (text : List α) (ws : List (List α)) : List α :=
  ws.foldl (fun text w => if text = [] then text ++ w else text ++ d :: w) text

variable {d : α}

theorem written_cons (text w : List α) (ws : List (List α)) :
    written d text (w :: ws) = written d (if text = [] then text ++ w else text ++ d :: w) ws :=
  rfl

/-- Once something is written, every word has a separator in front. -/
theorem written_of_ne_nil {text : List α} (ht : text ≠ []) (ws : List (List α)) :
    written d text ws = text ++ ws.flatMap fun w => d :: w := by
  induction ws generalizing text with
  | nil => simp [written]
  | cons w ws ih =>
    rw [written_cons, if_neg ht, ih (by simp), List.flatMap_cons, List.append_assoc]

/-- **The empty words at the front are lost.** -/
theorem written_nil (ws : List (List α)) :
    written d [] ws = [d].intercalate (ws.dropWhile List.isEmpty) := by
  induction ws with
  | nil => rfl
  | cons w ws ih =>
    rw [written_cons, if_pos rfl, List.nil_append, List.dropWhile_cons]
    cases w with
    | nil => exact ih
    | cons a w =>
      rw [written_of_ne_nil (List.cons_ne_nil a w), if_neg (by simp), intercalate_eq_flatMap]

theorem length_written_le (ws : List (List α)) :
    (written d [] ws).length ≤ ([d].intercalate ws).length := by
  induction ws with
  | nil => exact Nat.le_refl _
  | cons w ws ih =>
    cases w with
    | nil =>
      rw [written_cons, if_pos rfl, List.nil_append]
      cases ws with
      | nil => exact ih
      | cons v vs =>
        rw [List.intercalate_cons_cons, List.length_append]
        omega
    | cons a w =>
      refine Nat.le_of_eq ?_
      rw [written_nil, List.dropWhile_cons_of_neg (by simp)]

/-- **The words are joined, each with the separator, exactly when the first is not empty**, or
there is only one. -/
theorem written_eq_intercalate_iff (ws : List (List α)) :
    written d [] ws = [d].intercalate ws ↔ ws.length ≤ 1 ∨ ws.head? ≠ some [] := by
  match ws with
  | [] => simp [written]
  | [w] => simp [written]
  | [] :: v :: ws =>
    refine iff_of_false (fun h => ?_) (by simp)
    -- the separator in front of the second word is missing
    have hlen := congrArg List.length h
    have hle := length_written_le (d := d) (v :: ws)
    rw [written_cons, if_pos rfl, List.nil_append, List.intercalate_cons_cons, List.length_append,
      List.length_append, List.length_singleton] at hlen
    omega
  | (a :: w) :: v :: ws =>
    refine iff_of_true ?_ (by simp)
    rw [written_nil, List.dropWhile_cons_of_neg (by simp)]

/-- **Words without the separator can be read back exactly in the same case.** -/
theorem splitOn_written_iff [BEq α] [LawfulBEq α] {ws : List (List α)} (hd : ∀ w ∈ ws, d ∉ w)
    (hws : ws ≠ []) :
    ((written d [] ws).splitOn d).Perm ws ↔ ws.length ≤ 1 ∨ ws.head? ≠ some [] := by
  constructor
  · intro hp
    by_contra hfirst
    push Not at hfirst
    obtain ⟨hlen, hhead⟩ := hfirst
    -- a word is lost, so there are fewer parts
    obtain ⟨ws', rfl⟩ := List.head?_eq_some_iff.1 hhead
    have hshort : (ws'.dropWhile List.isEmpty).length ≤ ws'.length :=
      (List.dropWhile_sublist _).length_le
    have hcount := hp.length_eq
    rw [written_nil, List.dropWhile_cons_of_pos (by simp), List.length_cons] at hcount
    rw [List.length_cons] at hlen
    cases hrest : ws'.dropWhile List.isEmpty with
    | nil =>
      rw [hrest, List.intercalate_nil, List.splitOn_nil, List.length_singleton] at hcount
      omega
    | cons v vs =>
      rw [hrest] at hcount hshort
      rw [List.splitOn_intercalate d (fun w hw => hd w ?_) (by simp)] at hcount
      · rw [hcount] at hshort
        exact absurd hshort (Nat.not_succ_le_self _)
      · rw [← hrest] at hw
        exact List.mem_cons_of_mem _ ((List.dropWhile_sublist _).subset hw)
  · intro h
    rw [(written_eq_intercalate_iff ws).2 h, List.splitOn_intercalate d hd hws]

end Words
