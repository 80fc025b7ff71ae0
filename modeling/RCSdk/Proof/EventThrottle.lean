import Mathlib.Data.List.Chain
import Mathlib.Data.List.TakeDrop
import Mathlib.Data.Rat.Defs
import Mathlib.Tactic.Linarith
import RCSdk.Spec.EventUnavailabel

/-!
# Which events a resting button drops

One flag stands for the whole button: the first delivery of a pass closes it for the others of the
same pass, and for all that comes before the delayed call (`handle_cons`).

* `throttle_iff`: of taps that start more than the interval after one another everything is
  delivered exactly when no tap sends twice within the interval; and of any other tap all or
  nothing exactly when it comes before the delayed call as a whole, or after it as a whole and sends
  in the same way.
-/

namespace RCSdk.EventUnavailabel

variable {I now : ℚ} {due : Option ℚ} {registrations : List Registration}

/-! ## The states of a button -/

/-- A button that rests until `due`, or does not rest. -/
def resting (I : ℚ) (due : Option ℚ) : UIButton := ⟨I, due.isSome, due.toList⟩

theorem fresh_eq (I : ℚ) : UIButton.fresh I = resting I none := rfl

theorem performDelayed_resting :
    (resting I due).performDelayed now = resting I (due.filter (now < ·)) := by
  cases due with
  | none => rfl
  | some d =>
    by_cases h : now < d
    · simp [resting, UIButton.performDelayed, Option.filter, h, not_le.2 h]
    · simp [resting, UIButton.performDelayed, Option.filter, h, not_lt.1 h]

/-- A button that rests delivers nothing. -/
theorem sendAll_resting (d : ℚ) (deliveries : List Delivery) :
    sendAll qi_sendAction now (resting I (some d)) deliveries = (resting I (some d), []) := by
  induction deliveries with
  | nil => rfl
  | cons delivery rest ih =>
    have hsend : qi_sendAction now (resting I (some d)) delivery = (resting I (some d), []) := by
      simp [qi_sendAction, resting]
    rw [sendAll, hsend]
    simp only [ih, List.append_nil]

/-- **A button that does not rest delivers the first of a pass**, and rests from then on. -/
theorem sendAll_ready (delivery : Delivery) (rest : List Delivery) :
    sendAll qi_sendAction now (resting I none) (delivery :: rest) =
      (resting I (some (now + I)), [delivery]) := by
  have hsend : qi_sendAction now (resting I none) delivery =
      (resting I (some (now + I)), [delivery]) := by
    simp [qi_sendAction, sendAction, resting]
  rw [sendAll, hsend]
  simp only [sendAll_resting, List.append_nil]

/-- Without the category everything is delivered. -/
theorem sendAll_sendAction (b : UIButton) (deliveries : List Delivery) :
    sendAll sendAction now b deliveries = (b, deliveries) := by
  induction deliveries with
  | nil => rfl
  | cons delivery rest ih =>
    rw [sendAll, sendAction]
    simp only [ih, List.singleton_append]

theorem handle_sendAction (b : UIButton) (ps : List Pass) :
    (handle sendAction registrations b ps).2 = ps.flatMap fun p => p.sends registrations := by
  induction ps generalizing b with
  | nil => rfl
  | cons p ps ih =>
    rw [handle, sendAll_sendAction]
    simp only [ih, List.flatMap_cons]

/-! ## One pass after the other -/

/-- How long the button rests after a pass. -/
def dueAfter (I : ℚ) (due : Option ℚ) (registrations : List Registration) (p : Pass) : Option ℚ :=
  if p.sends registrations = [] ∨ ∃ d ∈ due, p.time < d then due.filter (p.time < ·)
  else some (p.time + I)

theorem dueAfter_unsent {p : Pass}
    (h : p.sends registrations = [] ∨ ∃ d ∈ due, p.time < d) :
    dueAfter I due registrations p = due.filter (p.time < ·) := if_pos h

theorem dueAfter_sent {p : Pass} (hsends : p.sends registrations ≠ [])
    (hready : ¬ ∃ d ∈ due, p.time < d) :
    dueAfter I due registrations p = some (p.time + I) := by
  apply if_neg
  rintro (h | h)
  · exact hsends h
  · exact hready h

/-- **A pass delivers its first if the button does not rest then**, and nothing otherwise. -/
theorem handle_cons (p : Pass) (ps : List Pass) :
    handle qi_sendAction registrations (resting I due) (p :: ps) =
      ((handle qi_sendAction registrations
          (resting I (dueAfter I due registrations p)) ps).1,
        (if ∃ d ∈ due, p.time < d then [] else (p.sends registrations).take 1) ++
          (handle qi_sendAction registrations
            (resting I (dueAfter I due registrations p)) ps).2) := by
  rw [handle, performDelayed_resting]
  by_cases hrest : ∃ d ∈ due, p.time < d
  · obtain ⟨d, hd, hlt⟩ := hrest
    obtain rfl : due = some d := hd
    have hfilter : (some d).filter (p.time < ·) = some d := by simp [Option.filter, hlt]
    have hrest : ∃ d' ∈ some d, p.time < d' := ⟨d, rfl, hlt⟩
    rw [dueAfter_unsent (.inr hrest), if_pos hrest, hfilter, sendAll_resting]
  · have hfilter : due.filter (p.time < ·) = none := by
      cases due with
      | none => rfl
      | some d =>
        have hlt : ¬ p.time < d := fun h => hrest ⟨d, rfl, h⟩
        simp [Option.filter, hlt]
    rw [if_neg hrest, hfilter]
    cases hsends : p.sends registrations with
    | nil =>
      rw [dueAfter_unsent (.inl hsends), hfilter]
      rfl
    | cons delivery rest =>
      have hne : p.sends registrations ≠ [] := by
        rw [hsends]
        exact List.cons_ne_nil _ _
      rw [dueAfter_sent hne hrest, sendAll_ready]
      rfl

/-- What is delivered is some of what is sent. -/
theorem handle_sublist (ps : List Pass) (due : Option ℚ) :
    (handle qi_sendAction registrations (resting I due) ps).2.Sublist
      (ps.flatMap fun p => p.sends registrations) := by
  induction ps generalizing due with
  | nil => exact .slnil
  | cons p ps ih =>
    rw [handle_cons, List.flatMap_cons]
    refine List.Sublist.append ?_ (ih _)
    split_ifs
    · exact List.nil_sublist _
    · exact List.take_sublist _ _

theorem handle_append (ps qs : List Pass) (b : UIButton) :
    handle qi_sendAction registrations b (ps ++ qs) =
      ((handle qi_sendAction registrations (handle qi_sendAction registrations b ps).1 qs).1,
        (handle qi_sendAction registrations b ps).2 ++
          (handle qi_sendAction registrations
            (handle qi_sendAction registrations b ps).1 qs).2) := by
  induction ps generalizing b with
  | nil => rfl
  | cons p ps ih =>
    rw [List.cons_append, handle, handle]
    simp only [ih, List.append_assoc]

/-- Two parts of which one is in each of two others make up the whole exactly when each does. -/
theorem append_eq_append_iff_of_sublist {α : Type*} {as bs cs ds : List α} (hac : as.Sublist cs)
    (hbd : bs.Sublist ds) : as ++ bs = cs ++ ds ↔ as = cs ∧ bs = ds := by
  constructor
  · intro h
    have hlen := congrArg List.length h
    have hac' := hac.length_le
    have hbd' := hbd.length_le
    rw [List.length_append, List.length_append] at hlen
    exact ⟨hac.eq_of_length (by omega), hbd.eq_of_length (by omega)⟩
  · rintro ⟨rfl, rfl⟩
    rfl

/-! ## All of what is sent, or nothing -/

/-- The passes send at most once each, and no two of those that send are within the interval. -/
def Unhurried (I : ℚ) (registrations : List Registration) (ps : List Pass) : Prop :=
  (∀ p ∈ ps, (p.sends registrations).length ≤ 1) ∧
    (ps.filter fun p => p.sends registrations ≠ []).Pairwise fun p q => p.time + I ≤ q.time

/-- Every pass that sends comes when the button does not rest. -/
def Open (due : Option ℚ) (registrations : List Registration) (ps : List Pass) : Prop :=
  ∀ p ∈ ps, p.sends registrations ≠ [] → ∀ d ∈ due, d ≤ p.time

/-- Every pass that sends comes while the button rests. -/
def Shut (due : Option ℚ) (registrations : List Registration) (ps : List Pass) : Prop :=
  ∀ p ∈ ps, p.sends registrations ≠ [] → ∃ d ∈ due, p.time < d

/-- For a later pass a delayed call that is already made does not count. -/
theorem exists_filter_iff (due : Option ℚ) {p q : Pass} (hle : p.time ≤ q.time) :
    (∃ d ∈ due.filter (p.time < ·), q.time < d) ↔ ∃ d ∈ due, q.time < d := by
  constructor
  · rintro ⟨d, hd, hlt⟩
    exact ⟨d, (Option.mem_filter_iff.1 hd).1, hlt⟩
  · rintro ⟨d, hd, hlt⟩
    refine ⟨d, Option.mem_filter_iff.2 ⟨hd, ?_⟩, hlt⟩
    exact decide_eq_true (hle.trans_lt hlt)

theorem open_filter_iff (due : Option ℚ) (registrations : List Registration) {p : Pass}
    {ps : List Pass} (hp : ∀ q ∈ ps, p.time ≤ q.time) :
    Open (due.filter (p.time < ·)) registrations ps ↔ Open due registrations ps := by
  refine forall₂_congr fun q hq => imp_congr_right fun _ => ?_
  have h := exists_filter_iff due (hp q hq)
  rw [← not_iff_not] at h
  simpa only [not_exists, not_and, not_lt] using h

theorem shut_filter_iff (due : Option ℚ) (registrations : List Registration) {p : Pass}
    {ps : List Pass} (hp : ∀ q ∈ ps, p.time ≤ q.time) :
    Shut (due.filter (p.time < ·)) registrations ps ↔ Shut due registrations ps :=
  forall₂_congr fun q hq => imp_congr_right fun _ => exists_filter_iff due (hp q hq)

/-- **Everything is delivered** if no pass comes too early for the one before. -/
theorem handle_eq_sends_iff (ps : List Pass) (hps : ps.Pairwise fun p q => p.time ≤ q.time) :
    ∀ due : Option ℚ, (handle qi_sendAction registrations (resting I due) ps).2 =
        (ps.flatMap fun p => p.sends registrations) ↔
      Open due registrations ps ∧ Unhurried I registrations ps := by
  induction ps with
  | nil =>
    intro due
    refine iff_of_true rfl ⟨fun _ h => absurd h List.not_mem_nil, ?_⟩
    simp [Unhurried]
  | cons p ps ih =>
    intro due
    rw [List.pairwise_cons] at hps
    obtain ⟨hp, hps⟩ := hps
    have hfirst : (if ∃ d ∈ due, p.time < d then [] else (p.sends registrations).take 1).Sublist
        (p.sends registrations) := by
      split_ifs
      · exact List.nil_sublist _
      · exact List.take_sublist _ _
    rw [handle_cons, List.flatMap_cons,
      append_eq_append_iff_of_sublist hfirst (handle_sublist ps _), ih hps]
    unfold Open Unhurried
    rw [List.forall_mem_cons, List.forall_mem_cons]
    by_cases hsends : p.sends registrations = []
    · -- the pass sends nothing
      have hopen := open_filter_iff due registrations hp
      unfold Open at hopen
      rw [dueAfter_unsent (.inl hsends), hopen, List.filter_cons_of_neg (by simp [hsends])]
      simp [hsends]
    · by_cases hrest : ∃ d ∈ due, p.time < d
      · refine iff_of_false (fun h => ?_) fun h => ?_
        · rw [if_pos hrest] at h
          exact hsends h.1.symm
        · obtain ⟨d, hd, hlt⟩ := hrest
          exact absurd (h.1.1 hsends d hd) (not_le.2 hlt)
      · have hready : ∀ d ∈ due, d ≤ p.time := fun d hd => not_lt.1 fun h => hrest ⟨d, hd, h⟩
        have hone : (p.sends registrations).take 1 = p.sends registrations ↔
            (p.sends registrations).length ≤ 1 := List.take_eq_self_iff _
        rw [dueAfter_sent hsends hrest, if_neg hrest, hone, List.filter_cons_of_pos (by simpa using hsends),
          List.pairwise_cons]
        simp only [Option.mem_some_iff, forall_eq', List.mem_filter, decide_eq_true_eq]
        constructor
        · rintro ⟨h1, h2, h3, h4⟩
          refine ⟨⟨fun _ => hready, fun q hq _ d hd => (hready d hd).trans (hp q hq)⟩, ⟨h1, h3⟩,
            fun q hq => h2 q hq.1 hq.2, h4⟩
        · rintro ⟨-, ⟨h1, h3⟩, h2, h4⟩
          exact ⟨h1, fun q hq hs => h2 q ⟨hq, hs⟩, h3, h4⟩

/-- **Nothing is delivered** if all that is sent is sent while the button rests. -/
theorem handle_eq_nil_iff (ps : List Pass) (hps : ps.Pairwise fun p q => p.time ≤ q.time) :
    ∀ due : Option ℚ, (handle qi_sendAction registrations (resting I due) ps).2 = [] ↔
      Shut due registrations ps := by
  induction ps with
  | nil => exact fun due => iff_of_true rfl fun _ h => absurd h List.not_mem_nil
  | cons p ps ih =>
    intro due
    rw [List.pairwise_cons] at hps
    obtain ⟨hp, hps⟩ := hps
    have hshut := shut_filter_iff due registrations hp
    rw [handle_cons, List.append_eq_nil_iff, ih hps]
    unfold Shut at hshut ⊢
    rw [List.forall_mem_cons]
    by_cases hsends : p.sends registrations = []
    · rw [dueAfter_unsent (.inl hsends), hshut]
      simp [hsends]
    · by_cases hrest : ∃ d ∈ due, p.time < d
      · rw [dueAfter_unsent (.inr hrest), hshut, if_pos hrest]
        exact and_congr_left fun _ => iff_of_true rfl fun _ => hrest
      · refine iff_of_false (fun h => ?_) fun h => hrest (h.1 hsends)
        rw [if_neg hrest, List.take_eq_nil_iff] at h
        rcases h.1 with h | h
        · exact absurd h (by omega)
        · exact hsends h

/-- **How long the button rests after some passes**: until a time from before that has not come yet,
or for the interval after one of them. -/
theorem handle_state (I : ℚ) (registrations : List Registration) (ps : List Pass) : ∀ due : Option ℚ, ∃ due',
    (handle qi_sendAction registrations (resting I due) ps).1 = resting I due' ∧
      ∀ d ∈ due', (d ∈ due ∧ ∀ p ∈ ps, p.time < d) ∨ ∃ p ∈ ps, d = p.time + I := by
  induction ps with
  | nil => exact fun due => ⟨due, rfl, fun d hd => .inl ⟨hd, fun _ h => absurd h List.not_mem_nil⟩⟩
  | cons p ps ih =>
    intro due
    obtain ⟨due', hstate, hdue'⟩ := ih (dueAfter I due registrations p)
    rw [handle_cons]
    refine ⟨due', hstate, fun d hd => ?_⟩
    rcases hdue' d hd with ⟨hafter, hlater⟩ | ⟨q, hq, rfl⟩
    · unfold dueAfter at hafter
      split_ifs at hafter
      · obtain ⟨hbefore, hlt⟩ := Option.mem_filter_iff.1 hafter
        exact .inl ⟨hbefore, List.forall_mem_cons.2 ⟨of_decide_eq_true hlt, hlater⟩⟩
      · obtain rfl : p.time + I = d := by simpa using hafter
        exact .inr ⟨p, List.mem_cons_self, rfl⟩
    · exact .inr ⟨q, List.mem_cons_of_mem p hq, rfl⟩

/-! ## Taps -/

namespace Tap

theorem started_le (t : Tap) : ∀ p ∈ t.passes, t.started ≤ p.time := by
  intro p hp
  rcases List.mem_cons.1 hp with rfl | hp
  · exact le_rfl
  · exact (List.pairwise_cons.1 t.ordered).1 p hp

theorem le_ended (t : Tap) : ∀ p ∈ t.passes, p.time ≤ t.ended := by
  intro p hp
  have hlast := List.dropLast_append_getLast (List.cons_ne_nil t.first t.later)
  have hordered := t.ordered
  rw [← hlast, List.pairwise_append] at hordered
  rw [passes, ← hlast, List.mem_append, List.mem_singleton] at hp
  rcases hp with hp | rfl
  · exact hordered.2.2 p hp _ (List.mem_singleton_self _)
  · exact le_rfl

end Tap

/-- The second tap starts more than the interval after the first has ended. -/
def Apart (I : ℚ) (t u : Tap) : Prop := t.ended + I < u.started

theorem handleTaps_cons (send : SendAction) (b : UIButton) (t : Tap) (taps : List Tap) :
    handleTaps send registrations b (t :: taps) =
      handle send registrations b (t.passes ++ taps.flatMap Tap.passes) := by
  rw [handleTaps, List.flatMap_cons]

/-- What is sent in taps. -/
theorem handleTaps_sendAction (b : UIButton) (taps : List Tap) :
    (handleTaps sendAction registrations b taps).2 =
      (taps.flatMap Tap.passes).flatMap fun p => p.sends registrations :=
  handle_sendAction b _

/-- **Taps apart from each other**: the button is ready when each begins, so each is delivered or
not by itself. -/
theorem handleTaps_eq_sends_iff (taps : List Tap) (happart : taps.IsChain (Apart I)) :
    ∀ due : Option ℚ, (∀ t ∈ taps.head?, ∀ d ∈ due, d ≤ t.started) →
      ((handleTaps qi_sendAction registrations (resting I due) taps).2 =
          ((taps.flatMap Tap.passes).flatMap fun p => p.sends registrations) ↔
        ∀ t ∈ taps, Unhurried I registrations t.passes) := by
  induction taps with
  | nil => exact fun _ _ => iff_of_true rfl fun _ h => absurd h List.not_mem_nil
  | cons t taps ih =>
    intro due hdue
    have hready : ∀ d ∈ due, d ≤ t.started := hdue t rfl
    obtain ⟨due', hstate, hdue'⟩ := handle_state I registrations t.passes due
    have hnext : ∀ u ∈ taps.head?, ∀ d ∈ due', d ≤ u.started := by
      intro u hu d hd
      have hu : Apart I t u := happart.rel_head? hu
      rcases hdue' d hd with ⟨hbefore, hlt⟩ | ⟨p, hp, rfl⟩
      · exact absurd (hlt t.first List.mem_cons_self) (not_lt.2 (hready d hbefore))
      · have hended := t.le_ended p hp
        unfold Apart at hu
        linarith
    have hopen : Open due registrations t.passes :=
      fun p hp _ d hd => (hready d hd).trans (t.started_le p hp)
    rw [handleTaps_cons, handle_append, List.flatMap_cons, List.flatMap_append,
      append_eq_append_iff_of_sublist (handle_sublist _ _)
        (by rw [hstate]; exact handle_sublist _ _),
      handle_eq_sends_iff t.passes t.ordered, hstate]
    have ih := ih happart.tail due' hnext
    rw [handleTaps] at ih
    rw [ih, List.forall_mem_cons]
    exact and_congr_left fun _ => and_iff_right hopen

/-- **The throttled button delivers what the plain one does, for taps more than the interval apart,
exactly when no tap of them sends twice within the interval.** After any taps, of the next one
everything is delivered or nothing exactly when all it sends comes while the button rests, or all
of it after that and not twice within the interval. -/
theorem throttle_iff (I : ℚ) (registrations : List Registration) :
    (∀ taps : List Tap, taps.IsChain (Apart I) →
      ((handleTaps qi_sendAction registrations (.fresh I) taps).2 =
          (handleTaps sendAction registrations (.fresh I) taps).2 ↔
        ∀ t ∈ taps, Unhurried I registrations t.passes)) ∧
    ∀ (taps : List Tap) (next : Tap),
      let b := (handleTaps qi_sendAction registrations (.fresh I) taps).1
      ((handleTaps qi_sendAction registrations b [next]).2 =
            (handleTaps sendAction registrations b [next]).2 ∨
          (handleTaps qi_sendAction registrations b [next]).2 = [] ↔
        (∀ p ∈ next.passes, p.sends registrations ≠ [] → ∀ d ∈ b.delayed, d ≤ p.time) ∧
            Unhurried I registrations next.passes ∨
          ∀ p ∈ next.passes, p.sends registrations ≠ [] → ∃ d ∈ b.delayed, p.time < d) := by
  refine ⟨fun taps happart => ?_, fun taps next => ?_⟩
  · rw [handleTaps_sendAction, fresh_eq]
    exact handleTaps_eq_sends_iff taps happart none fun _ _ _ h => absurd h (by simp)
  · obtain ⟨due, hstate, -⟩ := handle_state I registrations (taps.flatMap Tap.passes) none
    have hstate : (handleTaps qi_sendAction registrations (.fresh I) taps).1 = resting I due :=
      hstate
    have hdelayed : ∀ d, d ∈ (resting I due).delayed ↔ d ∈ due := fun d => Option.mem_toList
    dsimp only
    rw [hstate, handleTaps_sendAction]
    have hpasses : [next].flatMap Tap.passes = next.passes := by simp
    rw [handleTaps, hpasses, handle_eq_sends_iff next.passes next.ordered,
      handle_eq_nil_iff next.passes next.ordered]
    simp only [Open, Shut, hdelayed]

/-- A finger that is down for a tenth of a second. -/
def shortTap : Tap where
  first := ⟨0, [UIControlEventTouchDown]⟩
  later := [⟨1 / 10, [UIControlEventTouchUpInside]⟩]
  ordered := by decide +kernel

/-- A key whose interval is half a second takes `buttonDown:` of its first tap and drops
`buttonAction:`; and of two targets for one event the second is dropped, though the interval is 0. -/
theorem key_tap_loses_action :
    [shortTap].IsChain (Apart (1 / 2)) ∧
      ((handleTaps qi_sendAction (keyTargets 0) (.fresh (1 / 2)) [shortTap]).2 =
          [⟨0, "buttonDown:"⟩] ∧
        (handleTaps sendAction (keyTargets 0) (.fresh (1 / 2)) [shortTap]).2 =
          [⟨0, "buttonDown:"⟩, ⟨0, "buttonAction:"⟩]) ∧
      let twice : List Registration :=
        [⟨0, "save:", UIControlEventTouchUpInside⟩, ⟨1, "log:", UIControlEventTouchUpInside⟩]
      (handleTaps qi_sendAction twice (.fresh 0) [shortTap]).2 = [⟨0, "save:"⟩] ∧
        (handleTaps sendAction twice (.fresh 0) [shortTap]).2 = [⟨0, "save:"⟩, ⟨1, "log:"⟩] := by
  refine ⟨.singleton _, ?_⟩
  decide +kernel

end RCSdk.EventUnavailabel
