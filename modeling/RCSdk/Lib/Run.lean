import Mathlib.Data.List.Basic
import Mathlib.Data.List.Chain

/-!
# Runs of a partial transition system

A system is a step function `step : σ → α → Option σ`: in state `s` the action
`a` leads to `t` when `step s a = some t`, and is stuck when it is `none`.
`Run step init h t` is a run from `init` to `t`, with `h` the states it passed
through, each with the action taken there.

* `Run.invariant`: what holds at the start and is kept by every step holds at the end.
* `Run.invariant_of`: the same for runs whose steps all meet a condition.
* `Run.always_iff`: if in every good state a step keeps the state good exactly when
  it meets a condition, a run is good throughout exactly when all its steps do.
* `exec_always_iff`: the same of a list of actions, which is then never stuck.
* `Run.steps_iff`: the same for what a step itself does, without regard to the steps before.
* `forall_visited_iff_of_sim`: two systems that stay related meet a condition on the states
  and actions together.
* `exec_rel_of_lockStep`: two systems whose related states stay related or are both stuck.
* `exec_rel_iff`: two systems that look alike as long as every step meets a condition.
* `forall_take_iff_isChain`: lists of actions that are good as long as each fits the one before
  (`forall_last_iff_isChain`, where good is said of the last one).
-/

namespace Trans

variable {σ α : Type*}

/-- The runs of a system, with the states passed through and the actions taken there. -/
inductive Run (step : σ → α → Option σ) (init : σ) : List (σ × α) → σ → Prop
  | nil : Run step init [] init
  | snoc {h : List (σ × α)} {s t : σ} {a : α} :
      Run step init h s → step s a = some t → Run step init (h ++ [(s, a)]) t

/-- The state a list of actions leads to. -/
def exec (step : σ → α → Option σ) : σ → List α → Option σ
  | s, [] => some s
  | s, a :: as => (step s a).bind fun t => exec step t as

/-- The states a list of actions passes through. -/
def visited (step : σ → α → Option σ) : σ → List α → List (σ × α)
  | _, [] => []
  | s, a :: as => (s, a) :: ((step s a).map fun t => visited step t as).getD []

variable {step : σ → α → Option σ} {init s t : σ} {h : List (σ × α)}

/-- Steps taken in front of a run, and the run continued. -/
theorem Run.exec_append (hr : Run step init h s) :
    ∀ as : List α, exec step s as = some t → Run step init (h ++ visited step s as) t := by
  intro as
  induction as generalizing h s with
  | nil =>
    intro he
    simp only [exec, Option.some.injEq] at he
    subst he; simpa [visited] using hr
  | cons a as ih =>
    intro he
    simp only [exec, Option.bind_eq_some_iff] at he
    obtain ⟨u, hu, he⟩ := he
    have := ih (hr.snoc hu) he
    simpa [visited, hu, List.append_assoc] using this

/-- An executable run is a run. -/
theorem run_of_exec (as : List α) (he : exec step init as = some t) :
    Run step init (visited step init as) t := by
  simpa using Run.exec_append Run.nil as he

theorem exec_append (as bs : List α) :
    exec step s (as ++ bs) = (exec step s as).bind fun t => exec step t bs := by
  induction as generalizing s with
  | nil => rfl
  | cons a as ih =>
    simp only [List.cons_append, exec, Option.bind_assoc, ih]

/-- An action taken once more comes behind the others. -/
theorem exec_replicate_succ {a : α} {n : ℕ} (he : exec step s (List.replicate (n + 1) a) = some t) :
    ∃ u, exec step s (List.replicate n a) = some u ∧ step u a = some t := by
  rw [List.replicate_succ', exec_append, Option.bind_eq_some_iff] at he
  obtain ⟨u, hu, he⟩ := he
  rw [exec] at he
  obtain ⟨t', ht, heq⟩ := Option.bind_eq_some_iff.1 he
  obtain rfl := Option.some.inj heq
  exact ⟨u, hu, ht⟩

/-- Actions get stuck exactly where some of them lead to a state in which the next is stuck. -/
theorem exec_eq_none_iff (as : List α) :
    exec step s as = none ↔ ∃ bs a cs t, as = bs ++ a :: cs ∧ exec step s bs = some t ∧
      step t a = none := by
  induction as generalizing s with
  | nil => simp [exec]
  | cons a as ih =>
    cases hs : step s a with
    | none =>
      have hexec : exec step s (a :: as) = none := by rw [exec, hs, Option.bind_none]
      exact ⟨fun _ => ⟨[], a, as, s, rfl, rfl, hs⟩, fun _ => hexec⟩
    | some u =>
      rw [exec, hs, Option.bind_some, ih]
      constructor
      · rintro ⟨bs, b, cs, t, rfl, ht, hb⟩
        exact ⟨a :: bs, b, cs, t, rfl, by rw [exec, hs, Option.bind_some, ht], hb⟩
      · rintro ⟨bs, b, cs, t, heq, ht, hb⟩
        cases bs with
        | nil =>
          simp only [List.nil_append, List.cons.injEq] at heq
          simp only [exec, Option.some.injEq] at ht
          rw [← ht, ← heq.1, hs] at hb
          exact absurd hb (by simp)
        | cons b' bs =>
          simp only [List.cons_append, List.cons.injEq] at heq
          obtain ⟨rfl, rfl⟩ := heq
          rw [exec, hs, Option.bind_some] at ht
          exact ⟨bs, b, cs, t, rfl, ht, hb⟩

/-- What every action that meets a condition keeps, a list of such actions keeps. -/
theorem exec_keeps {P : σ → Prop} {C : α → Prop} {as : List α}
    (hkeep : ∀ s a t, P s → C a → step s a = some t → P t) (hs : P s) (hC : ∀ a ∈ as, C a)
    (he : exec step s as = some t) : P t := by
  induction as generalizing s with
  | nil =>
    simp only [exec, Option.some.injEq] at he
    exact he ▸ hs
  | cons a as ih =>
    simp only [exec, Option.bind_eq_some_iff] at he
    obtain ⟨u, hu, he⟩ := he
    have hu' : P u := hkeep s a u hs (hC a List.mem_cons_self) hu
    exact ih hu' (fun b hb => hC b (List.mem_cons_of_mem _ hb)) he

/-- The first action alone. -/
theorem exec_take_one (a : α) (as : List α) : exec step s ((a :: as).take 1) = step s a := by
  simp [exec]

/-- Actions can all be taken exactly when each can in the state it is reached in. -/
theorem exec_isSome_iff (as : List α) :
    (exec step s as).isSome ↔ ∀ q ∈ visited step s as, (step q.1 q.2).isSome := by
  induction as generalizing s with
  | nil => simp [exec, visited]
  | cons a as ih => cases hs : step s a <;> simp [exec, visited, hs, ih]

/-- The same with a condition on the steps, where `I` is an invariant that may be used. -/
theorem exec_isSome_iff_of {I : σ → Prop} {C : σ → α → Prop} (hi : I s)
    (hI : ∀ s a t, I s → step s a = some t → I t)
    (hs : ∀ s a, I s → ((step s a).isSome ↔ C s a)) (as : List α) :
    (exec step s as).isSome ↔ ∀ q ∈ visited step s as, C q.1 q.2 := by
  induction as generalizing s with
  | nil => simp [exec, visited]
  | cons a as ih =>
    rw [exec, visited, List.forall_mem_cons, ← hs s a hi]
    cases hst : step s a with
    | none => simp
    | some t => simpa using ih (hI s a t hi hst)

/-- What holds of the first action of a list and of all later ones. -/
theorem forall_visited_cons {C : σ × α → Prop} {a : α} {as : List α} (ha : C (s, a))
    (hs : step s a = some t) (h : ∀ q ∈ visited step t as, C q) :
    ∀ q ∈ visited step s (a :: as), C q := by
  intro q hq
  simp only [visited, hs, Option.map_some, Option.getD_some, List.mem_cons] at hq
  rcases hq with rfl | hq
  · exact ha
  · exact h q hq

theorem forall_visited_nil {C : σ × α → Prop} : ∀ q ∈ visited step s [], C q :=
  fun _ h => absurd h List.not_mem_nil

theorem forall_visited_cons_iff {C : σ × α → Prop} {a : α} {as : List α}
    (hs : step s a = some t) :
    (∀ q ∈ visited step s (a :: as), C q) ↔ C (s, a) ∧ ∀ q ∈ visited step t as, C q := by
  simp only [visited, hs, Option.map_some, Option.getD_some, List.mem_cons, forall_eq_or_imp]

/-- **Never stuck**: actions that keep an invariant lead to a state that has it. -/
theorem exec_invariant {P : σ → Prop} {as : List α}
    (hs : ∀ s, ∀ a ∈ as, P s → ∃ t, step s a = some t ∧ P t) (hp : P s) :
    ∃ t, exec step s as = some t ∧ P t := by
  induction as generalizing s with
  | nil => exact ⟨s, rfl, hp⟩
  | cons a as ih =>
    obtain ⟨t, ht, hpt⟩ := hs s a List.mem_cons_self hp
    obtain ⟨u, hu, hpu⟩ := ih (fun s b hb => hs s b (List.mem_cons_of_mem _ hb)) hpt
    refine ⟨u, ?_, hpu⟩
    rw [exec, ht, Option.bind_some, hu]

/-- **Never stuck and good throughout exactly when every step meets the condition**, where a
good state is not stuck, `I` is an invariant that may be used and the actions meet `A`. -/
theorem exec_always_iff {I P : σ → Prop} {A C : σ → α → Prop}
    (hstep : ∀ s a, I s → A s a → P s → ∃ t, step s a = some t ∧ I t ∧ (P t ↔ C s a))
    (as : List α) (hi : I s) (ha : ∀ q ∈ visited step s as, A q.1 q.2) :
    (∃ t, exec step s as = some t ∧ (∀ q ∈ visited step s as, P q.1) ∧ P t) ↔
      P s ∧ ∀ q ∈ visited step s as, C q.1 q.2 := by
  induction as generalizing s with
  | nil => simp [exec, visited]
  | cons a as ih =>
    by_cases hp : P s
    · obtain ⟨t, hst, hit, hC⟩ := hstep s a hi (ha (s, a) List.mem_cons_self) hp
      rw [forall_visited_cons_iff hst] at ha
      have ih := ih hit ha.2
      simp only [exec, hst, Option.bind_some, forall_visited_cons_iff hst, hp, true_and, ih, hC]
    · refine iff_of_false ?_ fun h => hp h.1
      rintro ⟨-, -, hh, -⟩
      exact hp (hh (s, a) List.mem_cons_self)

/-- **Every step does right exactly when each meets the condition**, where a step that meets it
can be taken and keeps the invariant `I`. -/
theorem forall_visited_iff_of {I : σ → Prop} {P : σ → α → σ → Prop} {C : σ → α → Prop}
    (hC : ∀ s a, I s → C s a → ∃ t, step s a = some t ∧ I t ∧ P s a t)
    (hP : ∀ s a t, I s → step s a = some t → P s a t → C s a) (as : List α) :
    ∀ s, I s → ((∀ q ∈ visited step s as, ∃ t, step q.1 q.2 = some t ∧ P q.1 q.2 t) ↔
      ∀ q ∈ visited step s as, C q.1 q.2) := by
  induction as with
  | nil => exact fun _ _ => iff_of_true forall_visited_nil forall_visited_nil
  | cons a as ih =>
    intro s hi
    constructor
    · intro h
      obtain ⟨t, ht, hp⟩ := h (s, a) List.mem_cons_self
      have hc := hP s a t hi ht hp
      obtain ⟨t', ht', hit, -⟩ := hC s a hi hc
      obtain rfl := Option.some.inj (ht.symm.trans ht')
      rw [forall_visited_cons_iff ht] at h ⊢
      exact ⟨hc, (ih t hit).1 h.2⟩
    · intro h
      obtain ⟨t, ht, hit, hp⟩ := hC s a hi (h (s, a) List.mem_cons_self)
      rw [forall_visited_cons_iff ht] at h ⊢
      exact ⟨⟨t, ht, hp⟩, (ih t hit).2 h.2⟩

/-- What every step does, if it can always be taken and keeps an invariant. -/
theorem forall_visited_of_step {I : σ → Prop} {P : σ → α → σ → Prop}
    (hstep : ∀ s a, I s → ∃ t, step s a = some t ∧ I t ∧ P s a t) (as : List α) (s : σ) (hi : I s) :
    ∀ q ∈ visited step s as, ∃ t, step q.1 q.2 = some t ∧ P q.1 q.2 t :=
  (forall_visited_iff_of (C := fun _ _ => True) (fun s a hi _ => hstep s a hi)
    (fun _ _ _ _ _ _ => trivial) as s hi).2 fun _ _ => trivial

section Simulation

variable {τ β : Type*} {step' : τ → β → Option τ} {R : σ → τ → Prop} {f : α → β}

/-- **Two systems that stay related pass the same tests.** -/
theorem forall_visited_iff_of_sim {C : σ × α → Prop} {D : τ × β → Prop}
    (hstep : ∀ s t a, R s t → ∃ s' t', step s a = some s' ∧ step' t (f a) = some t' ∧ R s' t')
    (hC : ∀ s t a, R s t → (C (s, a) ↔ D (t, f a))) :
    ∀ (as : List α) (s : σ) (t : τ), R s t →
      ((∀ q ∈ visited step s as, C q) ↔ ∀ q ∈ visited step' t (as.map f), D q) := by
  intro as
  induction as with
  | nil => intro s t _; simp [visited]
  | cons a as ih =>
    intro s t hR
    obtain ⟨s', t', hs, ht, hR'⟩ := hstep s t a hR
    rw [List.map_cons, forall_visited_cons_iff hs, forall_visited_cons_iff ht, hC s t a hR,
      ih s' t' hR']

/-- A system that stays related to one that is never stuck is never stuck. -/
theorem exec_isSome_of_sim
    (hstep : ∀ s t a, R s t → ∃ s' t', step s a = some s' ∧ step' t (f a) = some t' ∧ R s' t') :
    ∀ (as : List α) (s : σ) (t : τ), R s t → (exec step s as).isSome := by
  intro as
  induction as with
  | nil => intro s t _; rfl
  | cons a as ih =>
    intro s t hR
    obtain ⟨s', t', hs, -, hR'⟩ := hstep s t a hR
    simp only [exec, hs, Option.bind_some]
    exact ih s' t' hR'

/-- **Two systems in lock step**: where related states are both stuck or lead to related
states, whole runs are both stuck or lead to related states. -/
theorem exec_rel_of_lockStep
    (hstep : ∀ s t a, R s t → Option.Rel R (step s a) (step' t (f a))) :
    ∀ (as : List α) (s : σ) (t : τ), R s t →
      Option.Rel R (exec step s as) (exec step' t (as.map f)) := by
  intro as
  induction as with
  | nil => exact fun s t hR => .some hR
  | cons a as ih =>
    intro s t hR
    rw [List.map_cons, exec, exec]
    have ha := hstep s t a hR
    generalize step s a = u at ha ⊢
    generalize step' t (f a) = v at ha ⊢
    cases ha with
    | none => exact .none
    | some hR' => exact ih _ _ hR'

end Simulation

section Observation

variable {τ : Type*} {step' : τ → α → Option τ} {R O : σ → τ → Prop} {C : σ → α → Prop}

/-- **Two systems look alike along a list of actions exactly when every step meets the
condition**, where related states look alike, a step that meets it keeps them related or
stops both, and a step that does not sets them apart. -/
theorem exec_rel_iff (hO : ∀ s t, R s t → O s t)
    (hC : ∀ s t a, R s t → C s a → Option.Rel R (step s a) (step' t a))
    (hN : ∀ s t a, R s t → ¬ C s a → ¬ Option.Rel O (step s a) (step' t a)) (as : List α) :
    ∀ s t, R s t →
      ((∀ n, Option.Rel O (exec step s (as.take n)) (exec step' t (as.take n))) ↔
        ∀ q ∈ visited step s as, C q.1 q.2) := by
  induction as with
  | nil =>
    intro s t hR
    refine iff_of_true (fun n => ?_) forall_visited_nil
    rw [List.take_nil]
    exact .some (hO s t hR)
  | cons a as ih =>
    intro s t hR
    by_cases hc : C s a
    · have hrel := hC s t a hR hc
      have hexec : ∀ n, exec step s ((a :: as).take (n + 1)) =
          (step s a).bind fun u => exec step u (as.take n) := fun _ => rfl
      have hexec' : ∀ n, exec step' t ((a :: as).take (n + 1)) =
          (step' t a).bind fun u => exec step' u (as.take n) := fun _ => rfl
      have hvis : (∀ q ∈ visited step s (a :: as), C q.1 q.2) ↔
          ∀ q ∈ ((step s a).map fun u => visited step u as).getD [], C q.1 q.2 := by
        rw [visited, List.forall_mem_cons]
        exact and_iff_right hc
      rw [hvis]
      generalize step s a = u at hrel hexec
      generalize step' t a = v at hrel hexec'
      cases hrel with
      | none =>
        -- both stop here, and visit nothing more
        refine iff_of_true (fun n => ?_) fun _ h => absurd h List.not_mem_nil
        cases n with
        | zero => exact .some (hO s t hR)
        | succ n => rw [hexec, hexec']; exact .none
      | @some s' t' hR' =>
        rw [Option.map_some, Option.getD_some, ← ih s' t' hR']
        constructor
        · intro h n
          have := h (n + 1)
          rwa [hexec, hexec'] at this
        · intro h n
          cases n with
          | zero => exact .some (hO s t hR)
          | succ n => rw [hexec, hexec']; exact h n
    · -- the run of this one step tells them apart
      refine iff_of_false (fun h => ?_) fun h => hc (h (s, a) List.mem_cons_self)
      have h1 := h 1
      rw [exec_take_one, exec_take_one] at h1
      exact hN s t a hR hc h1

end Observation

/-- **Good after every action exactly when each action fits the one before**, where the first
action is good and a good run stays good under an action exactly when it fits the last one. -/
theorem forall_take_iff_isChain {G : List α → Prop} {R : α → α → Prop} (hfirst : ∀ a, G [a])
    (hnext : ∀ as a b, G (as ++ [a]) → (G (as ++ [a, b]) ↔ R a b)) (as : List α) :
    (∀ n < as.length, G (as.take (n + 1))) ↔ as.IsChain R := by
  induction as using List.reverseRecOn with
  | nil => simp
  | append_singleton as b ih =>
    -- the actions before the last, and all of them
    have hsplit : (∀ n < (as ++ [b]).length, G ((as ++ [b]).take (n + 1))) ↔
        (∀ n < as.length, G (as.take (n + 1))) ∧ G (as ++ [b]) := by
      have htake : ∀ n < as.length, (as ++ [b]).take (n + 1) = as.take (n + 1) :=
        fun n hn => List.take_append_of_le_length hn
      have hall : (as ++ [b]).take (as.length + 1) = as ++ [b] := by
        rw [List.take_of_length_le]
        rw [List.length_append, List.length_singleton]
      rw [List.length_append, List.length_singleton]
      constructor
      · intro h
        refine ⟨fun n hn => ?_, hall ▸ h as.length (by omega)⟩
        exact htake n hn ▸ h n (by omega)
      · rintro ⟨h, hlast⟩ n hn
        rcases Nat.lt_succ_iff_lt_or_eq.1 hn with hn | rfl
        · rw [htake n hn]
          exact h n hn
        · rw [hall]
          exact hlast
    rw [hsplit]
    rcases List.eq_nil_or_concat as with rfl | ⟨as', a, rfl⟩
    · simpa using hfirst b
    · rw [List.concat_eq_append] at ih ⊢
      have hgood : (∀ n < (as' ++ [a]).length, G ((as' ++ [a]).take (n + 1))) → G (as' ++ [a]) := by
        intro h
        have hlen : (as' ++ [a]).length = as'.length + 1 := by simp
        have := h as'.length (by omega)
        rwa [List.take_of_length_le (by omega)] at this
      rw [List.append_assoc, List.singleton_append]
      have hchain : (as' ++ [a, b]).IsChain R ↔ (as' ++ [a]).IsChain R ∧ R a b := by
        rw [List.isChain_append_cons_cons]
        simp
      rw [hchain, ← ih]
      exact and_congr_right fun h => hnext as' a b (hgood h)

/-- The same where good is said of a list and its last action. -/
theorem forall_last_iff_isChain {G : List α → α → Prop} {R : α → α → Prop}
    (hfirst : ∀ a, G [a] a)
    (hnext : ∀ as a b, G (as ++ [a]) a → (G (as ++ [a, b]) b ↔ R a b)) (as : List α) :
    (∀ n < as.length, ∀ last ∈ (as.take (n + 1)).getLast?, G (as.take (n + 1)) last) ↔
      as.IsChain R := by
  refine forall_take_iff_isChain (G := fun as => ∀ last ∈ as.getLast?, G as last)
    (fun a last hlast => ?_) (fun as a b hgood => ?_) as
  · obtain rfl : a = last := by simpa using hlast
    exact hfirst a
  · have hlast : G (as ++ [a]) a := hgood a (by simp)
    rw [← hnext as a b hlast]
    simp

/-- **The invariant rule.** -/
theorem Run.invariant {P : σ → Prop} (h0 : P init)
    (hs : ∀ s a t, P s → step s a = some t → P t) (hr : Run step init h t) : P t := by
  induction hr with
  | nil => exact h0
  | snoc _ hst ih => exact hs _ _ _ ih hst

/-- **The invariant rule under a condition on the steps.** -/
theorem Run.invariant_of {P : σ → Prop} {C : σ → α → Prop} (h0 : P init)
    (hs : ∀ s a t, P s → C s a → step s a = some t → P t) (hr : Run step init h t)
    (hc : ∀ q ∈ h, C q.1 q.2) : P t := by
  induction hr with
  | nil => exact h0
  | snoc _ hst ih =>
    exact hs _ _ _ (ih fun q hq => hc q (List.mem_append_left _ hq))
      (hc _ (List.mem_append_right _ (List.mem_singleton_self _))) hst

/-- Every state a run passed through ends a shorter run, whose history is a prefix. -/
theorem Run.prefix_of_mem (hr : Run step init h t) {q : σ × α} (hq : q ∈ h) :
    ∃ h₁ h₂, h = h₁ ++ q :: h₂ ∧ Run step init h₁ q.1 := by
  induction hr with
  | nil => simp at hq
  | @snoc h s t a hr hst ih =>
    rcases List.mem_append.1 hq with hq | hq
    · obtain ⟨h₁, h₂, rfl, hr₁⟩ := ih hq
      exact ⟨h₁, h₂ ++ [(s, a)], by simp, hr₁⟩
    · obtain rfl := List.mem_singleton.1 hq
      exact ⟨h, [], rfl, hr⟩

/-- The last step of a run. -/
theorem Run.last {a : α} (hr : Run step init (h ++ [(s, a)]) t) : step s a = some t := by
  generalize hh : h ++ [(s, a)] = h' at hr
  cases hr with
  | nil => exact absurd hh (by simp)
  | snoc _ hst =>
    obtain ⟨-, he⟩ := List.append_inj' hh rfl
    obtain ⟨rfl, rfl⟩ := Prod.mk.inj (List.cons.inj he).1
    exact hst

/-- A run comes in two parts. -/
theorem Run.split {h₁ h₂ : List (σ × α)} (hr : Run step init (h₁ ++ h₂) t) :
    ∃ s, Run step init h₁ s ∧ Run step s h₂ t := by
  generalize hh : h₁ ++ h₂ = h at hr
  induction hr generalizing h₂ with
  | nil =>
    obtain ⟨rfl, rfl⟩ := List.append_eq_nil_iff.1 hh
    exact ⟨init, .nil, .nil⟩
  | @snoc h s t a hr hst ih =>
    rcases List.eq_nil_or_concat h₂ with rfl | ⟨h₃, q, rfl⟩
    · rw [List.append_nil] at hh
      subst hh
      exact ⟨t, hr.snoc hst, .nil⟩
    · rw [List.concat_eq_append, ← List.append_assoc] at hh
      obtain ⟨hh, hq⟩ := List.append_inj' hh rfl
      obtain ⟨u, hu, hr'⟩ := ih hh
      obtain rfl := (List.cons.inj hq).1
      exact ⟨u, hu, by rw [List.concat_eq_append]; exact hr'.snoc hst⟩

theorem Run.eq_of_nil (hr : Run step init [] t) : t = init := by
  generalize hh : ([] : List (σ × α)) = h at hr
  cases hr with
  | nil => rfl
  | snoc _ _ => exact absurd hh (by simp)

/-- The first step of a run. -/
theorem Run.first {q : σ × α} (hr : Run step init (q :: h) t) :
    q.1 = init ∧ ∃ s, step init q.2 = some s ∧ Run step s h t := by
  have hr₀ : Run step init ([q] ++ h) t := hr
  obtain ⟨s, h₁, h₂⟩ := hr₀.split
  generalize hh : [q] = l at h₁
  cases h₁ with
  | nil => exact absurd hh (by simp)
  | @snoc l s' _ a h₁ hst =>
    obtain ⟨hl, hq⟩ := List.append_inj' (show [] ++ [q] = l ++ [(s', a)] from hh) rfl
    subst hl
    obtain rfl := (List.cons.inj hq).1
    obtain rfl := h₁.eq_of_nil
    exact ⟨rfl, s, hst, h₂⟩

/-- Every step of a run was taken. -/
theorem Run.step_of_mem (hr : Run step init h t) {q : σ × α} (hq : q ∈ h) :
    ∃ s, step q.1 q.2 = some s := by
  obtain ⟨h₁, h₂, rfl, -⟩ := hr.prefix_of_mem hq
  obtain ⟨u, -, hu⟩ := hr.split
  obtain ⟨rfl, s, hs, -⟩ := hu.first
  exact ⟨s, hs⟩

/-- **All steps of a run do right exactly when each meets the condition**, where `I` is an
invariant that may be used. -/
theorem Run.steps_iff {I : σ → Prop} {P C : σ → α → Prop} (hi : I init)
    (hI : ∀ s a t, I s → step s a = some t → I t)
    (hs : ∀ s a t, I s → step s a = some t → (P s a ↔ C s a)) (hr : Run step init h t) :
    (∀ q ∈ h, P q.1 q.2) ↔ ∀ q ∈ h, C q.1 q.2 := by
  refine forall₂_congr fun q hq => ?_
  obtain ⟨h₁, -, -, hr₁⟩ := hr.prefix_of_mem hq
  obtain ⟨u, hu⟩ := hr.step_of_mem hq
  exact hs q.1 q.2 u (hr₁.invariant hi hI) hu

/-- **Good throughout exactly when every step meets the condition**, in a run whose steps all
meet `A`. `I` is an invariant that may be used; `P` is what a step keeps exactly under `C`. -/
theorem Run.always_iff_of {I P : σ → Prop} {A C : σ → α → Prop} (hi : I init) (hp : P init)
    (hI : ∀ s a t, I s → step s a = some t → I t)
    (hs : ∀ s a t, I s → A s a → P s → step s a = some t → (P t ↔ C s a))
    (hr : Run step init h t) (ha : ∀ q ∈ h, A q.1 q.2) :
    ((∀ q ∈ h, P q.1) ∧ P t) ↔ ∀ q ∈ h, C q.1 q.2 := by
  induction hr with
  | nil => simpa using hp
  | @snoc h s t a hr hst ih =>
    have hIs : I s := hr.invariant hi hI
    have ih := ih fun q hq => ha q (List.mem_append_left _ hq)
    have hA : A s a := ha (s, a) (List.mem_append_right _ (List.mem_singleton_self _))
    simp only [List.mem_append, List.mem_singleton, or_imp, forall_and, forall_eq]
    constructor
    · rintro ⟨⟨hh, hPs⟩, hPt⟩
      exact ⟨ih.1 ⟨hh, hPs⟩, (hs s a t hIs hA hPs hst).1 hPt⟩
    · rintro ⟨hh, hC⟩
      obtain ⟨h1, hPs⟩ := ih.2 hh
      exact ⟨⟨h1, hPs⟩, (hs s a t hIs hA hPs hst).2 hC⟩

/-- The same of every run. -/
theorem Run.always_iff {I P : σ → Prop} {C : σ → α → Prop} (hi : I init) (hp : P init)
    (hI : ∀ s a t, I s → step s a = some t → I t)
    (hs : ∀ s a t, I s → P s → step s a = some t → (P t ↔ C s a)) (hr : Run step init h t) :
    ((∀ q ∈ h, P q.1) ∧ P t) ↔ ∀ q ∈ h, C q.1 q.2 :=
  hr.always_iff_of (A := fun _ _ => True) hi hp hI (fun s a t hi _ => hs s a t hi)
    fun _ _ => trivial

theorem Run.init_of_always {P : σ → Prop} (hr : Run step init h t) (hh : ∀ q ∈ h, P q.1)
    (ht : P t) : P init := by
  induction hr with
  | nil => exact ht
  | snoc _ _ ih =>
    exact ih (fun q hq => hh q (List.mem_append_left _ hq))
      (hh _ (List.mem_append_right _ (List.mem_singleton_self _)))

/-- The same when the first state may not be good. -/
theorem Run.always_iff_init {I P : σ → Prop} {C : σ → α → Prop} (hi : I init)
    (hI : ∀ s a t, I s → step s a = some t → I t)
    (hs : ∀ s a t, I s → P s → step s a = some t → (P t ↔ C s a)) (hr : Run step init h t) :
    ((∀ q ∈ h, P q.1) ∧ P t) ↔ P init ∧ ∀ q ∈ h, C q.1 q.2 := by
  by_cases hp : P init
  · rw [hr.always_iff hi hp hI hs]
    exact (and_iff_right hp).symm
  · exact iff_of_false (fun ⟨hh, ht⟩ => hp (hr.init_of_always hh ht)) fun ⟨h0, _⟩ => hp h0

end Trans
