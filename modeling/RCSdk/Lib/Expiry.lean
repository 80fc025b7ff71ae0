import RCSdk.Lib.Run
import Mathlib.Logic.Function.Basic

/-!
# Stores whose entries expire

A store keeps, for each key, a value with the time it was saved and the time it may live.
When an entry still counts as fresh is a parameter: a fetch answers a fresh entry and
removes any other.

* `answer_eq_iff_judge`: two notions of freshness give one answer to a fetch exactly when
  they judge the entry found alike.
* `answers_eq_iff_judge`: two stores that start out equal answer a whole sequence of
  operations alike exactly when every entry found on the way is judged alike.
-/

namespace Expiry

open Trans

variable {K V T : Type*} [DecidableEq K]

structure Entry (V T : Type*) where
  value : V
  since : T
  life : T

/-- A store, by what it holds. -/
abbrev Store (K V T : Type*) := K → Option (Entry V T)

/-- What a store is asked. -/
inductive Op (K V T : Type*) where
  | save (now : T) (key : K) (value : V) (life : T)
  | fetch (now : T) (key : K)
  | clear

/-- What a store answers, which is nothing but to a fetch. -/
def answer (fresh : T → Entry V T → Bool) (s : Store K V T) : Op K V T → Option V
  | .save .. => none
  | .fetch now key => ((s key).filter (fresh now)).map (·.value)
  | .clear => none

/-- What an operation leaves behind. -/
def apply (fresh : T → Entry V T → Bool) (s : Store K V T) : Op K V T → Store K V T
  | .save now key value life => Function.update s key (some ⟨value, now, life⟩)
  | .fetch now key => Function.update s key ((s key).filter (fresh now))
  | .clear => fun _ => none

/-- Two notions of freshness judge the entry that an operation finds alike. -/
def Judge (fresh fresh' : T → Entry V T → Bool) (s : Store K V T) (op : Op K V T) : Prop :=
  ∀ now key e, op = .fetch now key → s key = some e → fresh now e = fresh' now e

/-- Two stores side by side, each with its own notion of freshness. -/
def both (fresh fresh' : T → Entry V T → Bool) (p : Store K V T × Store K V T) (op : Op K V T) :
    Option (Store K V T × Store K V T) :=
  some (apply fresh p.1 op, apply fresh' p.2 op)

variable {fresh fresh' : T → Entry V T → Bool} {s : Store K V T} {op : Op K V T}

omit [DecidableEq K] in
theorem filter_of_judge {now : T} {key : K} (h : Judge fresh fresh' s (.fetch now key)) :
    (s key).filter (fresh now) = (s key).filter (fresh' now) := by
  cases he : s key with
  | none => rfl
  | some e => rw [Option.filter_some, Option.filter_some, h now key e rfl he]

/-- Where the judgement is the same, so is the store left behind. -/
theorem apply_congr (h : Judge fresh fresh' s op) : apply fresh s op = apply fresh' s op := by
  cases op with
  | save now key value life => rfl
  | fetch now key => simp only [apply, filter_of_judge h]
  | clear => rfl

omit [DecidableEq K] in
/-- **The same answer is the same judgement.** -/
theorem answer_eq_iff_judge :
    answer fresh s op = answer fresh' s op ↔ Judge fresh fresh' s op := by
  constructor
  · intro h now key e hop he
    subst hop
    simp only [answer, he, Option.filter_some] at h
    cases hf : fresh now e <;> cases hf' : fresh' now e <;> simp [hf, hf'] at h ⊢
  · intro h
    cases op with
    | save now key value life => rfl
    | fetch now key => simp only [answer, filter_of_judge h]
    | clear => rfl

/-- **The same answers throughout are the same judgements throughout.** -/
theorem answers_eq_iff_judge : ∀ (ops : List (Op K V T)) (s : Store K V T),
    (∀ q ∈ visited (both fresh fresh') (s, s) ops,
        answer fresh q.1.1 q.2 = answer fresh' q.1.2 q.2) ↔
      ∀ q ∈ visited (both fresh fresh') (s, s) ops, Judge fresh fresh' q.1.1 q.2 := by
  intro ops
  induction ops with
  | nil => intro s; simp [visited]
  | cons op ops ih =>
    intro s
    have hst : both fresh fresh' (s, s) op = some (apply fresh s op, apply fresh' s op) := rfl
    rw [forall_visited_cons_iff hst, forall_visited_cons_iff hst, answer_eq_iff_judge]
    -- as long as the judgements agree the two stores are one
    refine and_congr_right fun hj => ?_
    rw [← apply_congr hj]
    exact ih _

end Expiry
