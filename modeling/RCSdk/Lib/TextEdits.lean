import Mathlib.Algebra.Order.Ring.Nat
import Mathlib.Data.List.TakeDrop

/-!
# Edits of a text

A text is a list of units, and an edit puts a string in the place of a range of it.

* `length_replace`: the length after an edit.
* `all_take_replace_iff`: what has to hold of the string for a property of all units to survive an
  edit and a cut.
* `append_eq_replace_iff`: when an edit of one unit is the same as adding it at the end.
-/

namespace TextEdits

/-- A range of a text, by its first index and its length. -/
structure Span where
  location : ℕ
  length : ℕ
  deriving DecidableEq, Repr

/-- The range lies in a text of `n` units. -/
def Span.Valid (r : Span) (n : ℕ) : Prop := r.location + r.length ≤ n

instance (r : Span) (n : ℕ) : Decidable (r.Valid n) :=
  inferInstanceAs (Decidable (r.location + r.length ≤ n))

variable {α : Type*}

/-- The text with a string in the place of a range. -/
def replace (text : List α) (r : Span) (string : List α) : List α :=
  text.take r.location ++ string ++ text.drop (r.location + r.length)

variable {text string : List α} {r : Span} {p : α → Prop}

theorem Span.Valid.location_le {n : ℕ} (h : r.Valid n) : r.location ≤ n :=
  (Nat.le_add_right _ _).trans h

theorem length_replace (h : r.Valid text.length) (string : List α) :
    (replace text r string).length + r.length = text.length + string.length := by
  have hle : r.location + r.length ≤ text.length := h
  rw [replace, List.length_append, List.length_append, List.length_take, List.length_drop]
  omega

/-- Where the range begins, the string does. -/
theorem replace_eq_take_append (h : r.Valid text.length) (k : ℕ) :
    (replace text r string).take k =
      text.take (min k r.location) ++ string.take (k - r.location) ++
        (text.drop (r.location + r.length)).take (k - r.location - string.length) := by
  have hlength : (text.take r.location).length = r.location := by
    rw [List.length_take, Nat.min_eq_left h.location_le]
  rw [replace, List.append_assoc, List.take_append, List.take_append, List.take_take, hlength,
    List.append_assoc]

/-- **A property of all units, after an edit and a cut**, is one of the part of the string that the
cut leaves. -/
theorem all_take_replace_iff (h : r.Valid text.length) (htext : ∀ a ∈ text, p a)
    (string : List α) (k : ℕ) :
    (∀ a ∈ (replace text r string).take k, p a) ↔ ∀ a ∈ string.take (k - r.location), p a := by
  rw [replace_eq_take_append h]
  constructor
  · intro hall a ha
    exact hall a (List.mem_append_left _ (List.mem_append_right _ ha))
  · intro hstring a ha
    rcases List.mem_append.1 ha with ha | ha
    · rcases List.mem_append.1 ha with ha | ha
      · exact htext a (List.mem_of_mem_take ha)
      · exact hstring a ha
    · exact htext a (List.mem_of_mem_drop (List.mem_of_mem_take ha))

/-- A unit before a text is the text with the unit after it only when the text repeats the unit. -/
theorem cons_eq_concat_iff (a : α) (l : List α) : a :: l = l ++ [a] ↔ ∀ b ∈ l, b = a := by
  induction l with
  | nil => simp
  | cons b l ih =>
    rw [List.cons_append, List.cons.injEq, List.forall_mem_cons]
    constructor
    · rintro ⟨rfl, h⟩
      exact ⟨rfl, ih.1 h⟩
    · rintro ⟨rfl, h⟩
      exact ⟨rfl, ih.2 h⟩

/-- **Adding at the end** is an edit of one unit exactly when the range is empty and has only that
unit behind it. -/
theorem append_eq_replace_iff (h : r.Valid text.length) (a : α) :
    text ++ [a] = replace text r [a] ↔
      r.length = 0 ∧ ∀ b ∈ text.drop r.location, b = a := by
  have hempty : r.length = 0 → (text ++ [a] = replace text r [a] ↔
      ∀ b ∈ text.drop r.location, b = a) := by
    intro h0
    rw [replace, h0, Nat.add_zero, List.append_assoc, List.singleton_append, ← cons_eq_concat_iff]
    nth_rewrite 1 [← List.take_append_drop r.location text]
    rw [List.append_assoc, List.append_cancel_left_eq]
    exact eq_comm
  constructor
  · intro heq
    have hlength := length_replace h [a]
    rw [← heq, List.length_append] at hlength
    -- one unit more is all there is, so nothing was replaced
    have h0 : r.length = 0 := by omega
    exact ⟨h0, (hempty h0).1 heq⟩
  · rintro ⟨h0, hall⟩
    exact (hempty h0).2 hall

end TextEdits
