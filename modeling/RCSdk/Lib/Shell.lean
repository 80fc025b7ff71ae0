import Mathlib.Data.List.Basic

/-!
# Words of a shell command

The POSIX rules for words and quotes, for one simple command: `words` gives the words of a text
with their quotes removed, or nothing when a quote stays open, or when an operator or an expansion
makes it more than words. Pathnames and tildes, which are expanded in words already found, are not
looked at.

* `word_step`: what one character does.
* `word_consumes`: a word takes from the text no less than it holds, and the same blanks.
-/

namespace Shell

/-! ## Reading words -/

/-- Where a character stands: outside quotes, inside them, or after a backslash. -/
inductive Quoting where
  | bare
  | escaped
  | single
  | double
  | doubleEscaped
  deriving DecidableEq

/-- The characters that end a word outside quotes. -/
def endsWord (c : Char) : Bool := [' ', '\t', '\n'].contains c

/-- A text without white space. -/
def unbroken (s : List Char) : Bool := s.all fun c => !endsWord c

/-- The characters that begin an operator. -/
def isOperator (c : Char) : Bool := ['|', '&', ';', '<', '>', '(', ')'].contains c

/-- The characters that may follow the `$` of an expansion. -/
def isParameter (c : Char) : Bool :=
  c.isAlphanum || ['_', '\x7b', '(', '@', '*', '#', '?', '-', '$', '!'].contains c

/-- A `$` before this text begins an expansion. -/
def expands : List Char → Bool
  | '\\' :: '\n' :: s => expands s
  | c :: _ => isParameter c
  | [] => false

/-- An expansion begins here, by `$` or by a backquote. -/
def isExpansion (c : Char) (s : List Char) : Bool := c == '\x60' || c == '$' && expands s

/-- What a backslash escapes inside double quotes. -/
def isEscapable (c : Char) : Bool := ['$', '\x60', '"', '\\', '\n'].contains c

/-- A character more at the head of a word. -/
def push (c : Char) (r : Option (List Char × List Char)) : Option (List Char × List Char) :=
  r.map fun p => (c :: p.1, p.2)

/-- The rest of a word, and the text after it. -/
def word : Quoting → List Char → Option (List Char × List Char)
  | .bare, [] => some ([], [])
  | .bare, c :: s =>
    if endsWord c then some ([], c :: s)
    else if c = '\'' then word .single s
    else if c = '"' then word .double s
    else if c = '\\' then word .escaped s
    else if isOperator c || isExpansion c s then none
    else push c (word .bare s)
  | .escaped, c :: s => if c = '\n' then word .bare s else push c (word .bare s)
  | .single, c :: s => if c = '\'' then word .bare s else push c (word .single s)
  | .double, c :: s =>
    if c = '"' then word .bare s
    else if c = '\\' then word .doubleEscaped s
    else if isExpansion c s then none
    else push c (word .double s)
  | .doubleEscaped, c :: s =>
    if c = '\n' then word .double s
    else if isEscapable c then push c (word .double s)
    else push '\\' (push c (word .double s))
  | _, [] => none

theorem push_eq_some {c : Char} {r : Option (List Char × List Char)} {w rest : List Char} :
    push c r = some (w, rest) ↔ ∃ w', r = some (w', rest) ∧ w = c :: w' := by
  cases r with
  | none => simp [push]
  | some p =>
    obtain ⟨w', rest'⟩ := p
    simp only [push, Option.map_some, Option.some.injEq, Prod.mk.injEq]
    constructor
    · rintro ⟨rfl, rfl⟩
      exact ⟨w', ⟨rfl, rfl⟩, rfl⟩
    · rintro ⟨w'', ⟨rfl, rfl⟩, rfl⟩
      exact ⟨rfl, rfl⟩

/-- The quotes that are still to be closed. -/
def Quoting.toClose : Quoting → ℕ
  | .single | .double => 1
  | .bare | .escaped | .doubleEscaped => 0

/-- **What one character does**: it ends the word, or it adds to it, with a blank only for a blank,
and leaves the rest to be read. -/
theorem word_step {q : Quoting} {c : Char} {s w rest : List Char}
    (h : word q (c :: s) = some (w, rest)) :
    (endsWord c = true ∧ q = .bare ∧ w = [] ∧ rest = c :: s) ∨
      ∃ q' v w', word q' s = some (w', rest) ∧ w = v ++ w' ∧ v.count ' ' = [c].count ' ' ∧
        v.length + q.toClose ≤ q'.toClose + 1 := by
  cases q with
  | bare =>
    simp only [word] at h
    split_ifs at h with hend hsingle hdouble hback hspecial
    · rw [Option.some.injEq, Prod.mk.injEq] at h
      exact Or.inl ⟨hend, rfl, h.1.symm, h.2.symm⟩
    · subst hsingle
      exact Or.inr ⟨.single, [], w, h, rfl, rfl, by decide⟩
    · subst hdouble
      exact Or.inr ⟨.double, [], w, h, rfl, rfl, by decide⟩
    · subst hback
      exact Or.inr ⟨.escaped, [], w, h, rfl, rfl, by decide⟩
    · obtain ⟨w', hw, rfl⟩ := push_eq_some.1 h
      exact Or.inr ⟨.bare, [c], w', hw, rfl, rfl, by simp [Quoting.toClose]⟩
  | escaped =>
    simp only [word] at h
    split_ifs at h with hline
    · subst hline
      exact Or.inr ⟨.bare, [], w, h, rfl, rfl, by decide⟩
    · obtain ⟨w', hw, rfl⟩ := push_eq_some.1 h
      exact Or.inr ⟨.bare, [c], w', hw, rfl, rfl, by simp [Quoting.toClose]⟩
  | single =>
    simp only [word] at h
    split_ifs at h with hclose
    · subst hclose
      exact Or.inr ⟨.bare, [], w, h, rfl, rfl, by decide⟩
    · obtain ⟨w', hw, rfl⟩ := push_eq_some.1 h
      exact Or.inr ⟨.single, [c], w', hw, rfl, rfl, by simp [Quoting.toClose]⟩
  | double =>
    simp only [word] at h
    split_ifs at h with hclose hback hspecial
    · subst hclose
      exact Or.inr ⟨.bare, [], w, h, rfl, rfl, by decide⟩
    · subst hback
      exact Or.inr ⟨.doubleEscaped, [], w, h, rfl, rfl, by decide⟩
    · obtain ⟨w', hw, rfl⟩ := push_eq_some.1 h
      exact Or.inr ⟨.double, [c], w', hw, rfl, rfl, by simp [Quoting.toClose]⟩
  | doubleEscaped =>
    simp only [word] at h
    split_ifs at h with hline hescapable
    · subst hline
      exact Or.inr ⟨.double, [], w, h, rfl, rfl, by decide⟩
    · obtain ⟨w', hw, rfl⟩ := push_eq_some.1 h
      exact Or.inr ⟨.double, [c], w', hw, rfl, rfl, by simp [Quoting.toClose]⟩
    · -- the backslash comes with the character
      obtain ⟨w', hw, rfl⟩ := push_eq_some.1 h
      obtain ⟨w'', hw', rfl⟩ := push_eq_some.1 hw
      exact Or.inr ⟨.double, ['\\', c], w'', hw', rfl, rfl, by simp [Quoting.toClose]⟩

/-- **A word takes from the text no less than it holds, and the same blanks.** -/
theorem word_consumes {s : List Char} : ∀ {q : Quoting} {w rest : List Char},
    word q s = some (w, rest) →
      ∃ taken, s = taken ++ rest ∧ taken.count ' ' = w.count ' ' ∧
        w.length + q.toClose ≤ taken.length := by
  induction s with
  | nil =>
    intro q w rest h
    cases q with
    | bare =>
      simp only [word, Option.some.injEq, Prod.mk.injEq] at h
      obtain ⟨rfl, rfl⟩ := h
      exact ⟨[], rfl, rfl, Nat.le_refl _⟩
    | escaped => simp [word] at h
    | single => simp [word] at h
    | double => simp [word] at h
    | doubleEscaped => simp [word] at h
  | cons c s ih =>
    intro q w rest h
    rcases word_step h with ⟨-, rfl, rfl, rfl⟩ | ⟨q', v, w', hw, rfl, hblank, hlen⟩
    · exact ⟨[], rfl, rfl, Nat.le_refl _⟩
    · obtain ⟨taken, rfl, hcount, hle⟩ := ih hw
      refine ⟨c :: taken, rfl, ?_, ?_⟩
      · have hcons : (c :: taken).count ' ' = [c].count ' ' + taken.count ' ' := by
          rw [← List.count_append]
          rfl
        rw [hcons, List.count_append, hblank, hcount]
      · simp only [List.length_append, List.length_cons]
        omega

/-- A word that stops before a text holds no more than what precedes it. -/
theorem length_of_word {q : Quoting} {x w t : List Char} (h : word q (x ++ t) = some (w, t)) :
    w.length + q.toClose ≤ x.length := by
  obtain ⟨taken, htaken, -, hlen⟩ := word_consumes h
  rwa [List.append_cancel_right htaken]

/-- A word takes at least a character, unless it is at its end. -/
theorem length_lt_of_word {c : Char} {s w rest : List Char} (hc : endsWord c = false)
    (h : word .bare (c :: s) = some (w, rest)) : rest.length < (c :: s).length := by
  rcases word_step h with ⟨hend, -⟩ | ⟨q', v, w', hw, -⟩
  · rw [hc] at hend
    cases hend
  · obtain ⟨taken, rfl, -⟩ := word_consumes hw
    simp only [List.length_cons, List.length_append]
    omega

/-- The words of a simple command: to the end of its line, with nothing after it. -/
def commandWords : List Char → Option (List (List Char))
  | [] => some []
  | c :: s =>
    if c = '\\' ∧ s.head? = some '\n' then commandWords s.tail
    else if c = '\n' then if s.all endsWord then some [] else none
    else if c = '#' then if (s.dropWhile (· != '\n')).all endsWord then some [] else none
    else if hc : endsWord c then commandWords s
    else
      match h : word .bare (c :: s) with
      | none => none
      | some (w, rest) =>
        have : rest.length < (c :: s).length := length_lt_of_word (by simpa using hc) h
        (commandWords rest).map (w :: ·)
termination_by s => s.length
decreasing_by
  · rw [List.length_tail, List.length_cons]
    omega
  · exact Nat.lt_succ_self _
  · exact this

/-- The words of a text that holds one simple command. -/
def words (s : String) : Option (List String) :=
  (commandWords (s.toList.dropWhile endsWord)).map fun ws => ws.map String.ofList

theorem words_eq_some_iff {s : String} {ws : List String} :
    words s = some ws ↔
      commandWords (s.toList.dropWhile endsWord) = some (ws.map String.toList) := by
  unfold words
  rw [Option.map_eq_some_iff]
  constructor
  · rintro ⟨cs, h, rfl⟩
    simpa using h
  · intro h
    exact ⟨_, h, by simp⟩

end Shell
