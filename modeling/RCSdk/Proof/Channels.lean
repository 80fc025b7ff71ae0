import RCSdk.Proof.HookOrder

/-!
# The two notification channels

A load that ends is told to the delegate and to a block. A success asks the interceptor
before it goes to the main queue, so a veto silences both. A failure asks on the main queue
and lets the answer hold back the delegate alone: the fail block runs anyway.

* `Act.heard`: what a step lets be heard: nothing, or one notification.
* `channels_agree_iff`: for a load of a manager with a delegate and both blocks, the
  channels agree in every state exactly when no failure of it is vetoed.
* `vetoed_failure_heard`: a vetoed failure.
-/

namespace RCSdk

open Trans

namespace World

/-- **The channels of load `k` agree**: of each outcome, the block was run if and only if the
delegate was called. -/
structure ChannelsAgree (k : LoadId) (w : World) : Prop where
  success : (∃ delegate block, Hook.didSuccess delegate (some block) ∈ w.hooksOf k) ↔
    ∃ block, Hook.didSuccess true block ∈ w.hooksOf k
  fail : (∃ delegate block, Hook.didFailed delegate (some block) ∈ w.hooksOf k) ↔
    ∃ block, Hook.didFailed true block ∈ w.hooksOf k

/-- The load and the manager a block of the main queue notifies of. -/
def notifies : MainBlock → Option (ManagerId × LoadId)
  | .completion _ _ _ _ => none
  | .success m k _ => some (m, k)
  | .failed m k _ => some (m, k)

/-- Where load `k` is notified of, its manager has a delegate and both blocks. -/
def Equipped (k : LoadId) (w : World) (s : Step) : Prop :=
  s.event = .runMain → ∀ b rest, w.mainQueue = b :: rest → ∀ m, notifies b = some (m, k) →
    s.context.hasDelegate = true ∧ (w.managers m).successBlock.isSome = true ∧
      (w.managers m).failBlock.isSome = true

/-- Where a failure of load `k` is notified of, the interceptor does not veto. -/
def FailureAllowed (k : LoadId) (w : World) (s : Step) : Prop :=
  s.event = .runMain → ∀ m response rest, w.mainQueue = .failed m k response :: rest →
    s.context.beforePerformFail response = true

/-! ## What a step lets be heard -/

/-- The hooks a step adds hold no notification. -/
def Quiet (w w' : World) : Prop :=
  ∃ entries, w'.trace = w.trace ++ entries ∧ ∀ e ∈ entries, e.2.2.isNotification = false

theorem Quiet.refl {w w' : World} (h : w'.trace = w.trace) : Quiet w w' :=
  ⟨[], by rw [h, List.append_nil], fun _ h => absurd h List.not_mem_nil⟩

theorem Quiet.trans {w w₁ w₂ : World} (h : Quiet w w₁) (h' : Quiet w₁ w₂) : Quiet w w₂ := by
  obtain ⟨entries, ht, hq⟩ := h
  obtain ⟨entries', ht', hq'⟩ := h'
  refine ⟨entries ++ entries', by rw [ht', ht, List.append_assoc], fun e he => ?_⟩
  rcases List.mem_append.1 he with he | he
  · exact hq e he
  · exact hq' e he

/-- An ending notifies nobody yet. -/
theorem quiet_leave {m : ManagerId} {k : LoadId} {response : Option RCURLResponse} {w : World}
    {x : Effects} (h : Ended m k response (w.enter m) x) : Quiet w (w.leave m k x) := by
  obtain ⟨blocks, hooks, -, hh, -, hquiet, -⟩ := h.mark
  refine ⟨hooks.map fun hook => (m, k, hook), ?_, fun e he => ?_⟩
  · rw [leave_trace, hh, enter_trace, List.nil_append]
  · obtain ⟨hook, hm, rfl⟩ := List.mem_map.1 he
    exact (hquiet hook hm).2

/-- The load is let through. -/
theorem quiet_opened {m : ManagerId} {success fail : Option Block} {w w₁ : World}
    (h : Opened m success fail w w₁) : Quiet w w₁ := by
  refine ⟨_, h.trace, fun e he => ?_⟩
  rw [List.mem_singleton.1 he]
  rfl

theorem quiet_startRequest (c : Context) (m : ManagerId) (k : LoadId) (params : NSDictionary)
    (w : World) : Quiet w (w.startRequest c m k params).1 := by
  refine ⟨_, startRequest_trace .., fun e he => ?_⟩
  obtain ⟨hook, hm, rfl⟩ := List.mem_map.1 he
  rw [mem_hookIf hm]
  rfl

section Steps

variable [Foundation]

theorem LoadCase.quiet {c : Context} {m : ManagerId} {params : NSDictionary}
    {success fail : Option Block} {w w' : World} (h : LoadCase c m params success fail w w') :
    Quiet w w' := by
  rcases h.kinds with rfl | ⟨w₁, response, x, ho, -, hx, rfl⟩ | ⟨cacheCenter, rfl⟩
  · exact .refl rfl
  · exact (quiet_opened ho).trans (quiet_leave hx)
  · exact (quiet_opened (opened_opened m success fail cacheCenter w)).trans (quiet_startRequest ..)

/-- **What a step lets be heard**: nothing, unless the main queue runs a block that notifies,
and then a success or a failure. -/
theorem Act.heard {c : Context} {w w' : World} {ev : Event} (h : Act c w ev w') :
    (Quiet w w' ∧ (ev = .runMain → ∀ b rest, w.mainQueue = b :: rest → notifies b = none)) ∨
      (∃ m k response rest, ev = .runMain ∧ w.mainQueue = .success m k response :: rest ∧
        w'.trace = w.trace ++ [Hook.didSuccess c.hasDelegate (w.managers m).successBlock].map
          fun hook => (m, k, hook)) ∨
      ∃ m k response rest, ev = .runMain ∧ w.mainQueue = .failed m k response :: rest ∧
        w'.trace = w.trace ++ (failHooks c response (w.managers m).failBlock).map
          fun hook => (m, k, hook) := by
  cases h with
  | load hev hcase =>
    obtain ⟨managers, rfl⟩ := hev.frame
    refine Or.inl ⟨(Quiet.refl rfl).trans hcase.quiet, fun he => ?_⟩
    subst he; cases hev
  | finish => exact Or.inl ⟨.refl rfl, fun he => by cases he⟩
  | finishIdle => exact Or.inl ⟨.refl rfl, fun he => by cases he⟩
  | completion hq hcase =>
    obtain ⟨x, hx, rfl⟩ := hcase.ended
    refine Or.inl ⟨(Quiet.refl rfl).trans (quiet_leave hx), fun _ b rest hb => ?_⟩
    rw [hq] at hb; cases hb; rfl
  | success hq => exact Or.inr (Or.inl ⟨_, _, _, _, rfl, hq, rfl⟩)
  | failed hq => exact Or.inr (Or.inr ⟨_, _, _, _, rfl, hq, rfl⟩)
  | runIdle hq => exact Or.inl ⟨.refl rfl, fun _ b rest hb => by rw [hq] at hb; cases hb⟩
  | cancelAll => exact Or.inl ⟨.refl rfl, fun he => by cases he⟩
  | cancel => exact Or.inl ⟨.refl rfl, fun he => by cases he⟩
  | touch ht =>
    obtain ⟨managers, rfl⟩ := ht.frame
    refine Or.inl ⟨.refl rfl, fun he => ?_⟩
    subst he; cases ht
  | clean hcl =>
    refine Or.inl ⟨.refl rfl, fun he => ?_⟩
    subst he; cases hcl

end Steps

/-! ## The hooks of one load -/

/-- A quiet step adds no notification to any load. -/
theorem Quiet.mem_hooksOf {w w' : World} (h : Quiet w w') {k : LoadId} {hook : Hook}
    (hn : hook.isNotification = true) : hook ∈ w'.hooksOf k ↔ hook ∈ w.hooksOf k := by
  obtain ⟨entries, ht, hq⟩ := h
  have hmem : ∀ v : World, hook ∈ v.hooksOf k ↔ ∃ m, (m, k, hook) ∈ v.trace := by
    intro v
    simp only [hooksOf, List.mem_filterMap, Option.ite_none_right_eq_some, Option.some.injEq]
    constructor
    · rintro ⟨⟨m, j, hook'⟩, he, hj, rfl⟩
      obtain rfl : j = k := hj
      exact ⟨m, he⟩
    · rintro ⟨m, he⟩
      exact ⟨_, he, rfl, rfl⟩
  rw [hmem, hmem, ht]
  refine exists_congr fun m => ?_
  rw [List.mem_append]
  refine or_iff_left fun he => ?_
  have := hq _ he
  rw [hn] at this
  cases this

/-- A step that adds no notification to load `k` leaves its channels as they are. -/
theorem channelsAgree_congr {w w' : World} {k : LoadId}
    (h : ∀ hook, hook.isNotification = true → (hook ∈ w'.hooksOf k ↔ hook ∈ w.hooksOf k))
    (hk : ChannelsAgree k w) : ChannelsAgree k w' := by
  have hs : ∀ delegate block, Hook.didSuccess delegate block ∈ w'.hooksOf k ↔
      Hook.didSuccess delegate block ∈ w.hooksOf k := fun _ _ => h _ rfl
  have hf : ∀ delegate block, Hook.didFailed delegate block ∈ w'.hooksOf k ↔
      Hook.didFailed delegate block ∈ w.hooksOf k := fun _ _ => h _ rfl
  exact ⟨by simpa only [hs] using hk.success, by simpa only [hf] using hk.fail⟩

/-- A step for another load. -/
theorem channelsAgree_other {w w' : World} {m : ManagerId} {j k : LoadId} {hooks : List Hook}
    (ht : w'.trace = w.trace ++ hooks.map fun hook => (m, j, hook)) (hj : j ≠ k)
    (hk : ChannelsAgree k w) : ChannelsAgree k w' := by
  refine channelsAgree_congr (fun hook _ => ?_) hk
  rw [hooksOf_of_trace ht, if_neg hj, List.append_nil]

/-- A load that waits for its notification has had none. -/
theorem no_notification_of_head {w : World} (hc : Conserved w) {b : MainBlock} {rest : List MainBlock}
    (hq : w.mainQueue = b :: rest) {hook : Hook} (hn : hook.isOutcome = true) :
    hook ∉ w.hooksOf b.load := by
  intro hmem
  obtain ⟨e, he, hk⟩ := List.mem_filterMap.1 hmem
  rw [Option.ite_none_right_eq_some, Option.some.injEq] at hk
  have h0 := (hc.head hq).1
  rw [outcomes, count, List.countP_eq_zero] at h0
  have := h0 e he
  rw [hk.1, hk.2, hn] at this
  simp at this

/-- Of the hooks of a failure, one is a notification. -/
theorem notification_mem_failHooks {c : Context} {response : Option RCURLResponse} {block : Option Block}
    {hook : Hook} (hn : hook.isNotification = true) :
    hook ∈ failHooks c response block ↔
      hook = .didFailed (c.beforePerformFail response && c.hasDelegate) block := by
  constructor
  · intro h
    rcases eq_of_mem_failHooks h with rfl | rfl | rfl | h
    · cases hn
    · cases hn
    · cases hn
    · exact h
  · rintro rfl
    simp [failHooks]

/-! ## The two notifications -/

/-- A success is told to both. -/
theorem channelsAgree_success {w w' : World} {m : ManagerId} {k : LoadId} {block : Block}
    (ht : w'.trace = w.trace ++ [Hook.didSuccess true (some block)].map fun hook => (m, k, hook))
    (h : ChannelsAgree k w) : ChannelsAgree k w' := by
  have hh : w'.hooksOf k = w.hooksOf k ++ [Hook.didSuccess true (some block)] := by
    rw [hooksOf_of_trace ht, if_pos rfl]
  have hf : ∀ delegate b, Hook.didFailed delegate b ∈ w'.hooksOf k ↔
      Hook.didFailed delegate b ∈ w.hooksOf k := by
    intro delegate b
    rw [hh, List.mem_append]
    exact or_iff_left fun h => by simp at h
  have hnew : Hook.didSuccess true (some block) ∈ w'.hooksOf k := by
    rw [hh]; exact List.mem_append_right _ (List.mem_singleton_self _)
  refine ⟨iff_of_true ⟨true, block, hnew⟩ ⟨some block, hnew⟩, ?_⟩
  simpa only [hf] using h.fail

/-- A failure is told to both exactly when the interceptor does not veto. -/
theorem channelsAgree_failed_iff {c : Context} {w w' : World} {m : ManagerId} {k : LoadId}
    {response : Option RCURLResponse} {block : Block} (hd : c.hasDelegate = true)
    (ht : w'.trace = w.trace ++ (failHooks c response (some block)).map fun hook => (m, k, hook))
    (hnone : ∀ hook, hook.isOutcome = true → hook ∉ w.hooksOf k) (h : ChannelsAgree k w) :
    ChannelsAgree k w' ↔ c.beforePerformFail response = true := by
  have hmem : ∀ hook, hook.isNotification = true → (hook ∈ w'.hooksOf k ↔ hook ∈ w.hooksOf k ∨
      hook = .didFailed (c.beforePerformFail response) (some block)) := by
    intro hook hn
    rw [hooksOf_of_trace ht, if_pos rfl, List.mem_append, notification_mem_failHooks hn, hd, Bool.and_true]
  have hs : ∀ delegate b, Hook.didSuccess delegate b ∈ w'.hooksOf k ↔
      Hook.didSuccess delegate b ∈ w.hooksOf k := by
    intro delegate b
    rw [hmem _ rfl]
    exact or_iff_left fun h => by simp at h
  -- the fail block of load `k` has run, and this is the only failure there is
  have hf : ∀ delegate b, Hook.didFailed delegate b ∈ w'.hooksOf k ↔
      delegate = c.beforePerformFail response ∧ b = some block := by
    intro delegate b
    rw [hmem _ rfl, Hook.didFailed.injEq]
    exact or_iff_right (hnone _ rfl)
  constructor
  · intro hw'
    obtain ⟨b, hb⟩ := hw'.fail.1 ⟨_, block, (hf _ _).2 ⟨rfl, rfl⟩⟩
    exact ((hf _ _).1 hb).1.symm
  · intro hans
    refine ⟨by simpa only [hs] using h.success, iff_of_true ⟨_, block, (hf _ _).2 ⟨rfl, rfl⟩⟩ ?_⟩
    exact ⟨some block, (hf _ _).2 ⟨hans.symm, rfl⟩⟩

/-- **What a step does to the channels of load `k`.** -/
theorem Act.channelsAgree_iff [Foundation] {c : Context} {w w' : World} {ev : Event} {k : LoadId}
    (hc : Conserved w) (he : Equipped k w ⟨c, ev⟩) (h : Act c w ev w') (hk : ChannelsAgree k w) :
    ChannelsAgree k w' ↔ FailureAllowed k w ⟨c, ev⟩ := by
  rcases h.heard with ⟨hquiet, hno⟩ | ⟨m, j, response, rest, rfl, hq, ht⟩ |
    ⟨m, j, response, rest, rfl, hq, ht⟩
  · refine iff_of_true (channelsAgree_congr (fun _ hn => hquiet.mem_hooksOf hn) hk) ?_
    intro hev m response rest hq
    have := hno hev _ _ hq
    cases this
  · refine iff_of_true ?_ fun _ m' response' rest' hq' => by rw [hq] at hq'; cases hq'
    by_cases hjk : j = k
    · subst hjk
      obtain ⟨hd, hs, -⟩ := he rfl _ _ hq m rfl
      obtain ⟨block, hb⟩ := Option.isSome_iff_exists.1 hs
      rw [hd, hb] at ht
      exact channelsAgree_success ht hk
    · exact channelsAgree_other ht hjk hk
  · by_cases hjk : j = k
    · subst hjk
      obtain ⟨hd, -, hf⟩ := he rfl _ _ hq m rfl
      obtain ⟨block, hb⟩ := Option.isSome_iff_exists.1 hf
      rw [hb] at ht
      rw [channelsAgree_failed_iff hd ht (fun hook hn => no_notification_of_head hc hq hn) hk]
      constructor
      · intro hans _ m' response' rest' hq'
        rw [hq] at hq'
        cases hq'
        exact hans
      · exact fun hall => hall rfl m response rest hq
    · refine iff_of_true (channelsAgree_other ht hjk hk) fun _ m' response' rest' hq' => ?_
      rw [hq] at hq'
      cases hq'
      exact absurd rfl hjk

/-! ## Whole runs -/

theorem channelsAgree_launch (cacheCenter : RCCacheCenter) (k : LoadId) :
    ChannelsAgree k (launch cacheCenter) := by
  constructor
  · constructor
    · rintro ⟨_, _, h⟩; cases h
    · rintro ⟨_, h⟩; cases h
  · constructor
    · rintro ⟨_, _, h⟩; cases h
    · rintro ⟨_, h⟩; cases h

/-- **The channels of a load agree in every state exactly when no failure of it is vetoed**,
where its manager has a delegate and both blocks. -/
theorem channels_agree_iff [Foundation] {cacheCenter : RCCacheCenter} {h : List (World × Step)}
    {w : World} (hr : Run step (launch cacheCenter) h w) (k : LoadId)
    (he : ∀ q ∈ h, Equipped k q.1 q.2) :
    ((∀ q ∈ h, ChannelsAgree k q.1) ∧ ChannelsAgree k w) ↔ ∀ q ∈ h, FailureAllowed k q.1 q.2 := by
  refine hr.always_iff_of (I := fun w => QueueOK w ∧ Conserved w)
    ⟨queueOK_launch cacheCenter, conserved_launch cacheCenter⟩ (channelsAgree_launch cacheCenter k)
    (fun w s w' hI hs => ?_) (fun w s w' hI hA hk hs => ?_) he
  · have ha := act_of_step hs
    exact ⟨hI.1.act ha, hI.2.act hI.1 ha⟩
  · exact Act.channelsAgree_iff hI.2 hA (act_of_step hs) hk

end World

namespace World

/-- A manager with a delegate and an interceptor that answers a failure with `answer`. -/
def judged (answer : Bool) : Context :=
  { Context.plain .noCache with
    interceptor := some {
      isManager := false
      didReceiveResponse := false
      beforePerformSuccess := none
      afterPerformSuccess := false
      beforePerformFail := some fun _ => answer
      afterPerformFail := false
      shouldCallAPI := none
      afterCallingAPI := false } }

/-- A load with both blocks whose request fails, up to the notification. -/
def failingLoad (answer : Bool) : List Step :=
  [⟨judged answer, .loadDataWithBlocks 0 none (some 1) (some 2)⟩,
    ⟨judged answer, .finish 0 none (some ⟨NSURLErrorTimedOut⟩)⟩,
    ⟨judged answer, .runMain⟩, ⟨judged answer, .runMain⟩]

/-- A failure that is not vetoed is told to both. -/
theorem channelsAgree_allowed_failure :
    ∃ w, exec step init (failingLoad true) = some w ∧ ChannelsAgree 0 w := by
  have hr : Run step (launch .init) _ _ := run_of_exec (failingLoad true) rfl
  refine ⟨_, rfl, ((channels_agree_iff hr 0 ?_).2 ?_).2⟩
  · refine forall_visited_cons (fun he => by cases he) rfl
      (forall_visited_cons (fun he => by cases he) rfl
        (forall_visited_cons (fun _ b rest hb m hm => ?_) rfl
          (forall_visited_cons (fun _ b rest hb m hm => ?_) rfl forall_visited_nil)))
    · cases hb; cases hm
    · cases hb; cases hm; exact ⟨rfl, rfl, rfl⟩
  · refine forall_visited_cons (fun he => by cases he) rfl
      (forall_visited_cons (fun he => by cases he) rfl
        (forall_visited_cons (fun _ m response rest hb => ?_) rfl
          (forall_visited_cons (fun _ m response rest hb => rfl) rfl forall_visited_nil)))
    cases hb

/-- **A vetoed failure**: the fail block runs, the delegate is not called. -/
theorem vetoed_failure_heard :
    ∃ w, exec step init (failingLoad false) = some w ∧
      w.hooksOf 0 = [.called (some 1) (some 2), .beforePerformFail, .didFailed false (some 2)] ∧
      ¬ ChannelsAgree 0 w := by
  refine ⟨_, rfl, rfl, fun h => ?_⟩
  obtain ⟨block, hb⟩ := h.fail.1 ⟨false, 2, List.mem_cons_of_mem _
    (List.mem_cons_of_mem _ (List.mem_singleton_self _))⟩
  change Hook.didFailed true block ∈
    [Hook.called (some 1) (some 2), .beforePerformFail, .didFailed false (some 2)] at hb
  simp at hb

end World

end RCSdk
