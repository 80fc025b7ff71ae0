import RCSdk.Lib.Shell

/-!
# Commands put together from pieces

A command is often put together from pieces with a blank before each, in quotes of one kind or in
none. A text is safe in its quotes when it holds nothing that is special there.

* `bareSafe_of_word`, `singleSafe_of_word`, `doubleSafe_of_word`: a text that loses no character
  between its quotes is safe there.
* `commandWords_iff`: the pieces are read back as they are exactly when all of them are safe.
-/

namespace Shell

/-! ## Texts that read as they are -/

/-- What has a meaning of its own outside quotes. -/
def isSpecial (c : Char) : Bool :=
  endsWord c || isOperator c || ['\'', '"', '\\'].contains c

/-- A text that outside quotes reads as it is. -/
def bareSafe : List Char → Bool
  | [] => true
  | c :: s => !isSpecial c && !isExpansion c s && bareSafe s

/-- A text that in single quotes reads as it is. -/
def singleSafe (s : List Char) : Bool := !s.contains '\''

/-- A text that in double quotes reads as it is. -/
def doubleSafe : List Char → Bool
  | [] => true
  | c :: s =>
    c != '"' && !isExpansion c s && !(c == '\\' && s.head?.all isEscapable) && doubleSafe s

/-- A text that a blank parts from what precedes it. -/
def Parted (t : List Char) : Prop := t = [] ∨ ∃ s, t = ' ' :: s

/-- Whether an expansion begins does not depend on a blank or a quote after the text. -/
theorem expands_append (s t : List Char) {d : Char} (hd : d = ' ' ∨ d = '"' ∨ d = '\'') :
    expands (s ++ d :: t) = expands s := by
  have hparam : isParameter d = false ∧ d ≠ '\n' := by
    rcases hd with rfl | rfl | rfl <;> decide
  induction s using expands.induct with
  | case1 s ih => exact ih
  | case2 c s h =>
    cases s with
    | nil => simp [expands, hparam.2]
    | cons e s =>
      have h' : ∀ r, c = '\\' → e :: (s ++ d :: t) = '\n' :: r → False := by
        rintro r hc hr
        rw [List.cons.injEq] at hr
        exact h s hc (by rw [hr.1])
      rw [List.cons_append, List.cons_append, expands.eq_2 _ _ h', expands.eq_2 _ _ h]
  | case3 =>
    have h' : ∀ r, d = '\\' → t = '\n' :: r → False := by
      rcases hd with rfl | rfl | rfl <;> intro r hr <;> cases hr
    rw [List.nil_append, expands.eq_2 _ _ h', hparam.1, expands]

theorem isExpansion_append (c : Char) (s t : List Char) {d : Char}
    (hd : d = ' ' ∨ d = '"' ∨ d = '\'') :
    isExpansion c (s ++ d :: t) = isExpansion c s := by
  rw [isExpansion, isExpansion, expands_append s t hd]

theorem isExpansion_parted (c : Char) (s : List Char) {t : List Char} (ht : Parted t) :
    isExpansion c (s ++ t) = isExpansion c s := by
  rcases ht with rfl | ⟨t, rfl⟩
  · rw [List.append_nil]
  · exact isExpansion_append c s t (Or.inl rfl)

/-- A character without a meaning of its own is read as it is. -/
theorem word_bare_cons {c : Char} {s : List Char} (hc : isSpecial c = false)
    (he : isExpansion c s = false) : word .bare (c :: s) = push c (word .bare s) := by
  simp only [isSpecial, Bool.or_eq_false_iff] at hc
  obtain ⟨⟨hend, hop⟩, hquote⟩ := hc
  simp at hquote
  obtain ⟨hsingle, hdouble, hback⟩ := hquote
  simp [word, hend, hsingle, hdouble, hback, hop, he]

theorem word_double_cons {c : Char} {s : List Char} (hc : c ≠ '"') (hback : c ≠ '\\')
    (he : isExpansion c s = false) : word .double (c :: s) = push c (word .double s) := by
  simp [word, hc, hback, he]

/-- In double quotes a backslash stays before what it does not escape. -/
theorem word_double_backslash {d : Char} {s : List Char} (hd : isEscapable d = false) :
    word .double ('\\' :: d :: s) = push '\\' (word .double (d :: s)) := by
  have hplain : d ≠ '\n' ∧ d ≠ '"' ∧ d ≠ '\\' ∧ isExpansion d s = false := by
    simp [isEscapable] at hd
    simp [isExpansion, hd]
  obtain ⟨hline, hquote, hback, he⟩ := hplain
  rw [word_double_cons hquote hback he]
  simp [word, hline, hd]

/-! ### Read as they are -/

theorem word_bare_of_safe {t : List Char} (ht : Parted t) {x : List Char}
    (h : bareSafe x = true) : word .bare (x ++ t) = some (x, t) := by
  induction x with
  | nil => rcases ht with rfl | ⟨t, rfl⟩ <;> rfl
  | cons c x ih =>
    simp only [bareSafe, Bool.and_eq_true, Bool.not_eq_true'] at h
    obtain ⟨⟨hc, he⟩, hx⟩ := h
    rw [List.cons_append, word_bare_cons hc (by rwa [isExpansion_parted c x ht]), ih hx]
    rfl

theorem word_single_of_safe {t : List Char} (ht : Parted t) {x : List Char}
    (h : singleSafe x = true) : word .single (x ++ '\'' :: t) = some (x, t) := by
  induction x with
  | nil =>
    have := word_bare_of_safe ht (x := []) rfl
    simpa [word] using this
  | cons c x ih =>
    simp [singleSafe] at h ih
    simp [word, Ne.symm h.1, ih h.2, push]

theorem word_double_of_safe {t : List Char} (ht : Parted t) {x : List Char}
    (h : doubleSafe x = true) : word .double (x ++ '"' :: t) = some (x, t) := by
  induction x with
  | nil =>
    have := word_bare_of_safe ht (x := []) rfl
    simpa [word] using this
  | cons c x ih =>
    simp only [doubleSafe, Bool.and_eq_true, Bool.not_eq_true', bne_iff_ne] at h
    obtain ⟨⟨⟨hquote, he⟩, hback⟩, hx⟩ := h
    have he' : isExpansion c (x ++ '"' :: t) = false := by
      rw [isExpansion_append c x t (Or.inr (Or.inl rfl)), he]
    have hpush : word .double (c :: (x ++ '"' :: t)) = push c (word .double (x ++ '"' :: t)) := by
      by_cases hc : c = '\\'
      · subst hc
        cases x with
        | nil => simp at hback
        | cons d x => exact word_double_backslash (by simpa using hback)
      · exact word_double_cons hquote hc he'
    rw [List.cons_append, hpush, ih hx]
    rfl

/-! ### And only these -/

/-- **Outside quotes, what loses no character is safe.** -/
theorem bareSafe_of_word {t : List Char} (ht : Parted t) {x : List Char} :
    ∀ {y : List Char}, word .bare (x ++ t) = some (y, t) → y.length = x.length →
      bareSafe x = true := by
  induction x with
  | nil => exact fun _ _ => rfl
  | cons c x ih =>
    intro y h hlen
    have hshort : ∀ {q : Quoting}, word q (x ++ t) ≠ some (y, t) := by
      intro q hq
      have := length_of_word hq
      rw [List.length_cons] at hlen
      omega
    rw [List.cons_append] at h
    simp only [word] at h
    split_ifs at h with hend hsingle hdouble hback hspecial
    · rw [Option.some.injEq, Prod.mk.injEq] at h
      rw [← h.1] at hlen
      simp at hlen
    · exact absurd h hshort
    · exact absurd h hshort
    · exact absurd h hshort
    · obtain ⟨y', hy, rfl⟩ := push_eq_some.1 h
      rw [isExpansion_parted c x ht] at hspecial
      simp only [Bool.or_eq_true, not_or, Bool.not_eq_true] at hspecial
      have hx := ih hy (by simpa using hlen)
      simp [bareSafe, isSpecial, hend, hsingle, hdouble, hback, hspecial, hx]

/-- A quote that closes too early is one too many for those that close at the end. -/
theorem length_ne_of_closed {t : List Char} (ht : Parted t) {x y : List Char} {d : Char}
    (hd : isSpecial d = true) (h : word .bare (x ++ d :: t) = some (y, t)) :
    y.length ≠ x.length + 1 := by
  intro hlen
  have hsafe : bareSafe (x ++ [d]) = true :=
    bareSafe_of_word ht (by simpa using h) (by simpa using hlen)
  clear h hlen
  induction x with
  | nil => simp [bareSafe, hd] at hsafe
  | cons c x ih =>
    simp only [List.cons_append, bareSafe, Bool.and_eq_true] at hsafe
    exact ih hsafe.2

/-- **In single quotes, what loses no character is safe.** -/
theorem singleSafe_of_word {t : List Char} (ht : Parted t) {x : List Char} :
    ∀ {y : List Char}, word .single (x ++ '\'' :: t) = some (y, t) → y.length = x.length →
      singleSafe x = true := by
  induction x with
  | nil => exact fun _ _ => rfl
  | cons c x ih =>
    intro y h hlen
    rw [List.cons_append] at h
    simp only [word] at h
    split_ifs at h with hclose
    · exact absurd hlen (length_ne_of_closed ht (by decide) h)
    · obtain ⟨y', hy, rfl⟩ := push_eq_some.1 h
      have hx := ih hy (by simpa using hlen)
      simp [singleSafe] at hx ⊢
      exact ⟨Ne.symm hclose, hx⟩

/-- **In double quotes, what loses no character is safe.** -/
theorem doubleSafe_of_word {t : List Char} (ht : Parted t) {x : List Char} :
    ∀ {y : List Char}, word .double (x ++ '"' :: t) = some (y, t) → y.length = x.length →
      doubleSafe x = true := by
  induction x with
  | nil => exact fun _ _ => rfl
  | cons c x ih =>
    intro y h hlen
    by_cases hback : c = '\\'
    · subst hback
      cases x with
      | nil =>
        -- the closing quote is escaped, and what follows does not close
        have hescapable : isEscapable '"' = true := by decide
        have h' : push '"' (word .double ([] ++ t)) = some (y, t) := by
          simpa [word, hescapable] using h
        obtain ⟨y', hy, -⟩ := push_eq_some.1 h'
        have := length_of_word hy
        simp [Quoting.toClose] at this
      | cons d x =>
        cases hd : isEscapable d with
        | true =>
          -- the backslash is lost
          obtain ⟨y', hy, hle⟩ : ∃ y', word .double ((x ++ ['"']) ++ t) = some (y', t) ∧
              y.length ≤ y'.length + 1 := by
            by_cases hline : d = '\n'
            · exact ⟨y, by simpa [word, hline] using h, Nat.le_succ _⟩
            · have h' : push d (word .double ((x ++ ['"']) ++ t)) = some (y, t) := by
                simpa [word, hline, hd] using h
              obtain ⟨y', hy, rfl⟩ := push_eq_some.1 h'
              exact ⟨y', hy, Nat.le_refl _⟩
          have := length_of_word hy
          simp only [List.length_append, List.length_cons, List.length_nil] at this hlen
          simp only [Quoting.toClose] at this
          omega
        | false =>
          rw [List.cons_append, List.cons_append, word_double_backslash hd] at h
          obtain ⟨y', hy, rfl⟩ := push_eq_some.1 h
          have hx := ih hy (by simpa using hlen)
          simp [doubleSafe, isExpansion, hd] at hx ⊢
          exact hx
    · rw [List.cons_append] at h
      simp only [word, hback, if_false] at h
      split_ifs at h with hclose hspecial
      · exact absurd hlen (length_ne_of_closed ht (by decide) h)
      · obtain ⟨y', hy, rfl⟩ := push_eq_some.1 h
        rw [isExpansion_append c x t (Or.inr (Or.inl rfl))] at hspecial
        have hx := ih hy (by simpa using hlen)
        simp [doubleSafe, hclose, hback, hspecial, hx]

/-! ## Pieces of a command -/

/-- A piece of a command: a word without white space and without quotes, or a text in quotes. -/
inductive Piece where
  | bare (w : List Char) (hne : w ≠ []) (hend : unbroken w = true)
  | single (w : List Char)
  | double (w : List Char)

namespace Piece

/-- The word a piece is meant to be. -/
def text : Piece → List Char
  | bare w _ _ => w
  | single w => w
  | double w => w

/-- The text it is written as. -/
def render : Piece → List Char
  | bare w _ _ => w
  | single w => '\'' :: (w ++ ['\''])
  | double w => '"' :: (w ++ ['"'])

/-- Nothing in the piece is special where it stands. -/
def Safe : Piece → Prop
  | bare w _ _ => bareSafe w = true ∧ w.head? ≠ some '#'
  | single w => singleSafe w = true
  | double w => doubleSafe w = true

instance : DecidablePred Safe
  | bare w _ _ => inferInstanceAs (Decidable (bareSafe w = true ∧ w.head? ≠ some '#'))
  | single w => inferInstanceAs (Decidable (singleSafe w = true))
  | double w => inferInstanceAs (Decidable (doubleSafe w = true))

theorem word_render_single (w t : List Char) :
    word .bare ((single w).render ++ t) = word .single (w ++ '\'' :: t) := by
  simp [render, word, endsWord]

theorem word_render_double (w t : List Char) :
    word .bare ((double w).render ++ t) = word .double (w ++ '"' :: t) := by
  simp [render, word, endsWord]

/-- A piece that is read as the word it is meant to be is read with its quotes, and no blank
more. -/
theorem word_consumes_render {p : Piece} {t rest : List Char}
    (h : word .bare (p.render ++ t) = some (p.text, rest)) :
    ∃ taken, p.render ++ t = taken ++ rest ∧ taken.count ' ' = p.render.count ' ' ∧
      p.render.length ≤ taken.length := by
  cases p with
  | bare w hne hend => exact word_consumes h
  | single w =>
    rw [word_render_single] at h
    obtain ⟨taken, htaken, hcount, hlen⟩ := word_consumes h
    refine ⟨'\'' :: taken, by simp [render, ← htaken], by simpa [render, text] using hcount, ?_⟩
    simpa [render, text, Quoting.toClose] using hlen
  | double w =>
    rw [word_render_double] at h
    obtain ⟨taken, htaken, hcount, hlen⟩ := word_consumes h
    refine ⟨'"' :: taken, by simp [render, ← htaken], by simpa [render, text] using hcount, ?_⟩
    simpa [render, text, Quoting.toClose] using hlen

/-- So it ends where it should. -/
theorem rest_eq_of_word {p : Piece} {t rest : List Char} (ht : Parted t)
    (h : word .bare (p.render ++ t) = some (p.text, rest)) : rest = t := by
  obtain ⟨taken, htaken, hcount, hlen⟩ := word_consumes_render h
  obtain ⟨more, rfl, rfl⟩ : ∃ more, taken = p.render ++ more ∧ t = more ++ rest := by
    rcases List.append_eq_append_iff.1 htaken with ⟨more, h1, h2⟩ | ⟨more, h1, h2⟩
    · exact ⟨more, h1, h2⟩
    · have hmore : more = [] := by
        rw [h1, List.length_append] at hlen
        exact List.length_eq_zero_iff.1 (by omega)
      exact ⟨[], by simp [h1, hmore], by simp [h2, hmore]⟩
  cases more with
  | nil => rfl
  | cons c more =>
    rcases ht with ht | ⟨s, ht⟩
    · cases ht
    · rw [List.cons_append, List.cons.injEq] at ht
      rw [List.count_append, ht.1, List.count_cons_self] at hcount
      omega

/-- **A piece is read as the word it is meant to be exactly when it is safe**, up to a `#` that
would have begun a comment. -/
theorem word_render_iff {p : Piece} {t : List Char} (ht : Parted t)
    (hhash : p.render.head? ≠ some '#') :
    word .bare (p.render ++ t) = some (p.text, t) ↔ p.Safe := by
  cases p with
  | bare w hne hend =>
    constructor
    · intro h
      exact ⟨bareSafe_of_word ht h rfl, hhash⟩
    · intro h
      exact word_bare_of_safe ht h.1
  | single w =>
    rw [word_render_single]
    exact ⟨fun h => singleSafe_of_word ht h rfl, word_single_of_safe ht⟩
  | double w =>
    rw [word_render_double]
    exact ⟨fun h => doubleSafe_of_word ht h rfl, word_double_of_safe ht⟩

/-- A piece begins neither with white space nor with a line continuation. -/
theorem exists_cons {p : Piece} {t : List Char} (ht : Parted t) :
    ∃ c s, p.render ++ t = c :: s ∧ p.render.head? = some c ∧ endsWord c = false ∧
      ¬ (c = '\\' ∧ s.head? = some '\n') := by
  cases p with
  | bare w hne hend =>
    have hmem : ∀ c ∈ w, endsWord c = false := by simpa [unbroken] using hend
    cases w with
    | nil => exact absurd rfl hne
    | cons c w =>
      refine ⟨c, w ++ t, rfl, rfl, hmem c List.mem_cons_self, ?_⟩
      rintro ⟨-, hline⟩
      cases w with
      | nil => rcases ht with rfl | ⟨s, rfl⟩ <;> simp at hline
      | cons d w =>
        rw [List.cons_append, List.head?_cons, Option.some.injEq] at hline
        have := hmem d (List.mem_cons_of_mem _ List.mem_cons_self)
        rw [hline] at this
        exact absurd this (by decide)
  | single w => exact ⟨'\'', w ++ ['\''] ++ t, rfl, rfl, by decide, by simp⟩
  | double w => exact ⟨'"', w ++ ['"'] ++ t, rfl, rfl, by decide, by simp⟩

/-- A piece without a `#` at its head begins a word. -/
theorem commandWords_render {p : Piece} {t : List Char} (ht : Parted t)
    (hhash : p.render.head? ≠ some '#') :
    commandWords (p.render ++ t) =
      (word .bare (p.render ++ t)).bind fun r => (commandWords r.2).map (r.1 :: ·) := by
  obtain ⟨c, s, hcons, hhead, hend, hline⟩ := exists_cons (p := p) ht
  have hne : c ≠ '\n' ∧ c ≠ '#' := by
    refine ⟨?_, ?_⟩
    · rintro rfl
      exact absurd hend (by decide)
    · rintro rfl
      exact hhash hhead
  rw [hcons, commandWords, if_neg hline, if_neg hne.1, if_neg hne.2, dif_neg (by simp [hend])]
  split
  · rename_i h
    rw [h]
    rfl
  · rename_i w rest h
    simp [h]

/-- A safe piece is the first word, whatever follows. -/
theorem commandWords_of_safe {p : Piece} {t : List Char} (ht : Parted t) (h : p.Safe) :
    commandWords (p.render ++ t) = (commandWords t).map (p.text :: ·) := by
  have hhash : p.render.head? ≠ some '#' := by
    cases p with
    | bare w hne hend => exact h.2
    | single w => simp [render]
    | double w => simp [render]
  rw [commandWords_render ht hhash, (word_render_iff ht hhash).2 h, Option.bind_some]

/-- **A piece is read as the word it is meant to be, and what follows as the words that follow,
exactly when the piece is safe.** -/
theorem commandWords_iff {p : Piece} {t : List Char} (ht : Parted t) (ws : List (List Char)) :
    commandWords (p.render ++ t) = some (p.text :: ws) ↔ p.Safe ∧ commandWords t = some ws := by
  constructor
  · intro h
    have hhash : p.render.head? ≠ some '#' := by
      -- a comment has no words
      intro hhash
      obtain ⟨c, s, hcons, hhead, -, -⟩ := exists_cons (p := p) ht
      obtain rfl : c = '#' := by rwa [hhead, Option.some.injEq] at hhash
      rw [hcons, commandWords] at h
      split_ifs at h <;> simp_all
    rw [commandWords_render ht hhash] at h
    obtain ⟨⟨w, rest⟩, hword, hrest⟩ := Option.bind_eq_some_iff.1 h
    obtain ⟨ws', hws', heq⟩ := Option.map_eq_some_iff.1 hrest
    rw [List.cons.injEq] at heq
    obtain ⟨rfl, rfl⟩ := heq
    obtain rfl := rest_eq_of_word ht hword
    exact ⟨(word_render_iff ht hhash).1 hword, hws'⟩
  · rintro ⟨hsafe, hws⟩
    rw [commandWords_of_safe ht hsafe, hws, Option.map_some]

end Piece

/-- The pieces of a command, each after a blank. -/
def line (pieces : List Piece) : List Char := pieces.flatMap fun p => ' ' :: p.render

theorem parted_line (pieces : List Piece) {t : List Char} (ht : Parted t) :
    Parted (line pieces ++ t) := by
  cases pieces with
  | nil => exact ht
  | cons p pieces => exact Or.inr ⟨_, rfl⟩

theorem commandWords_blank (s : List Char) : commandWords (' ' :: s) = commandWords s := by
  rw [commandWords]
  simp [endsWord]

/-- **Pieces are read back as they are, with what follows them, exactly when all of them are
safe.** -/
theorem commandWords_iff (pieces : List Piece) {t : List Char} (ht : Parted t)
    (ws : List (List Char)) :
    commandWords (line pieces ++ t) = some (pieces.map Piece.text ++ ws) ↔
      (∀ p ∈ pieces, p.Safe) ∧ commandWords t = some ws := by
  induction pieces with
  | nil => simp [line]
  | cons p pieces ih =>
    have hline : line (p :: pieces) ++ t = ' ' :: (p.render ++ (line pieces ++ t)) := by
      simp [line]
    rw [hline, commandWords_blank, List.map_cons, List.cons_append,
      p.commandWords_iff (parted_line pieces ht), ih, List.forall_mem_cons, and_assoc]

end Shell
