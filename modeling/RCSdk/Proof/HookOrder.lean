import RCSdk.Proof.Conservation

/-!
# The order of the hooks of a load

The hooks of one load come in stages: `didReceiveResponse`, the hook before, the delegate
callback and the block, the hook after. A failure runs all of them in one block of the main
queue. A success runs the first two in its completion handler, puts callback and block on
the main queue, and then runs the hook after at once.

* `inOrder_iff`: in every run the hooks of a load come in this order exactly when no success
  block of it that has somebody to notify runs after its `afterPerformSuccess`.
* `after_comes_first`: with such an interceptor the hook after comes first.
-/

namespace RCSdk

open Trans

/-- The stage of a hook; the two notifications only count when somebody is notified. -/
def Hook.stage : Hook → Option ℕ
  | .didReceiveResponse => some 0
  | .beforePerformSuccess | .beforePerformFail => some 1
  | .didSuccess delegate block | .didFailed delegate block =>
    if delegate || block.isSome then some 2 else none
  | .afterPerformSuccess | .afterPerformFail => some 3
  | .called _ _ | .afterCallingAPI | .vetoed | .tokenIllegal | .tokenInvalid | .swallowed => none

/-! ## The stages of each method -/

/-- The stages of a list of hooks. -/
def stagesOf (hooks : List Hook) : List ℕ := hooks.filterMap Hook.stage

theorem stagesOf_append (hooks hooks' : List Hook) :
    stagesOf (hooks ++ hooks') = stagesOf hooks ++ stagesOf hooks' := List.filterMap_append

theorem stagesOf_hookIf {p : RCAPIManagerInterceptor → Bool} {i : Option RCAPIManagerInterceptor}
    {hook : Hook} {n : ℕ} (hn : hook.stage = some n) :
    stagesOf (Context.hookIf p i hook) = [] ∨ stagesOf (Context.hookIf p i hook) = [n] := by
  unfold Context.hookIf
  split
  · exact Or.inr (by simp [stagesOf, hn])
  · exact Or.inl rfl

theorem failMarks_stages (c : Context) (response : Option RCURLResponse)
    (errorType : RCAPIManagerErrorType) : stagesOf (failMarks c response errorType) = [] := by
  unfold failMarks
  split_ifs <;> rfl

theorem successHooks_stages (c : Context) (response : RCURLResponse) :
    (stagesOf (successHooks c response)).Pairwise (· ≤ ·) := by
  have hveto : stagesOf (if c.beforePerformSuccess response then [] else [.vetoed]) = [] := by
    split <;> rfl
  unfold successHooks
  rw [stagesOf_append, stagesOf_append, stagesOf_append, hveto, List.nil_append]
  rcases stagesOf_hookIf (p := (·.didReceiveResponse)) (i := c.interceptor)
    (show Hook.didReceiveResponse.stage = some 0 from rfl) with h0 | h0 <;>
  rcases stagesOf_hookIf (p := (·.beforePerformSuccess.isSome)) (i := c.otherInterceptor)
    (show Hook.beforePerformSuccess.stage = some 1 from rfl) with h1 | h1 <;>
  rcases stagesOf_hookIf (p := (·.afterPerformSuccess)) (i := c.otherInterceptor)
    (show Hook.afterPerformSuccess.stage = some 3 from rfl) with h3 | h3 <;>
  rw [h0, h1, h3] <;> decide

namespace World

theorem failHooks_stages (c : Context) (response : Option RCURLResponse) (block : Option Block) :
    (stagesOf (failHooks c response block)).Pairwise (· ≤ ·) := by
  have h2 : ∀ delegate, stagesOf [.didFailed delegate block] = [] ∨
      stagesOf [.didFailed delegate block] = [2] := by
    intro delegate
    cases hd : delegate || block.isSome with
    | true => exact Or.inr (by simp [stagesOf, Hook.stage, hd])
    | false => exact Or.inl (by simp [stagesOf, Hook.stage, hd])
  unfold failHooks
  rw [stagesOf_append, stagesOf_append, stagesOf_append]
  rcases stagesOf_hookIf (p := (·.didReceiveResponse)) (i := c.interceptor)
    (show Hook.didReceiveResponse.stage = some 0 from rfl) with h0 | h0 <;>
  rcases stagesOf_hookIf (p := (·.beforePerformFail.isSome)) (i := c.otherInterceptor)
    (show Hook.beforePerformFail.stage = some 1 from rfl) with h1 | h1 <;>
  rcases h2 (c.beforePerformFail response && c.hasDelegate) with h2 | h2 <;>
  rcases stagesOf_hookIf (p := (·.afterPerformFail)) (i := c.otherInterceptor)
    (show Hook.afterPerformFail.stage = some 3 from rfl) with h3 | h3 <;>
  rw [h0, h1, h2, h3] <;> decide

/-! ## The stages of a load -/

/-- The hooks of load `k`, oldest first. -/
def hooksOf (k : LoadId) (w : World) : List Hook :=
  w.trace.filterMap fun e => if e.2.1 = k then some e.2.2 else none

/-- The stages load `k` has been through. -/
def stages (k : LoadId) (w : World) : List ℕ := stagesOf (w.hooksOf k)

/-- **The hooks of load `k` came in order.** -/
def InOrder (k : LoadId) (w : World) : Prop := (w.stages k).Pairwise (· ≤ ·)

theorem hooksOf_of_trace {w w' : World} {m : ManagerId} {j : LoadId} {hooks : List Hook}
    (h : w'.trace = w.trace ++ hooks.map fun hook => (m, j, hook)) (k : LoadId) :
    w'.hooksOf k = w.hooksOf k ++ if j = k then hooks else [] := by
  unfold hooksOf
  rw [h, List.filterMap_append, List.filterMap_map]
  congr 1
  by_cases hj : j = k
  · simp [hj]
  · simp [hj]

theorem stages_of_trace {w w' : World} {m : ManagerId} {j : LoadId} {hooks : List Hook}
    (h : w'.trace = w.trace ++ hooks.map fun hook => (m, j, hook)) (k : LoadId) :
    w'.stages k = w.stages k ++ if j = k then stagesOf hooks else [] := by
  unfold stages
  rw [hooksOf_of_trace h, stagesOf_append]
  split <;> rfl

theorem InOrder.append {w w' : World} {m : ManagerId} {j k : LoadId} {hooks : List Hook}
    (h : InOrder k w) (ht : w'.trace = w.trace ++ hooks.map fun hook => (m, j, hook))
    (hj : j = k → w.stages k = [] ∧ (stagesOf hooks).Pairwise (· ≤ ·)) : InOrder k w' := by
  unfold InOrder
  rw [stages_of_trace ht]
  split_ifs with hjk
  · obtain ⟨h0, hs⟩ := hj hjk
    rwa [h0, List.nil_append]
  · rwa [List.append_nil]

/-- A load that has been through a stage has an outcome or a success block that waits. -/
structure StagesOK (w : World) : Prop where
  ended : ∀ k, w.stages k ≠ [] →
    0 < w.outcomes k ∨ ∃ m response, MainBlock.success m k response ∈ w.mainQueue
  afterFail : ∀ k, Hook.afterPerformFail ∈ w.hooksOf k → 0 < w.outcomes k

theorem stagesOK_launch (cacheCenter : RCCacheCenter) : StagesOK (launch cacheCenter) :=
  ⟨fun _ h => absurd rfl h, fun _ h => absurd h List.not_mem_nil⟩

/-- A load that is not through with its ending has been through no stage. -/
theorem StagesOK.fresh {w : World} (hw : StagesOK w) (hc : Conserved w) {k : LoadId}
    (hk : w.loads ≤ k) : w.stages k = [] := by
  by_contra hne
  have hb := hc.balance k
  rw [hc.fresh k hk] at hb
  rcases hw.ended k hne with ho | ⟨m, response, hm⟩
  · omega
  · have hq : 0 < w.queued k := List.countP_pos_iff.2 ⟨_, hm, by simp [MainBlock.load]⟩
    omega

/-- The load of the block that runs has no outcome yet. -/
theorem Conserved.head {w : World} (hc : Conserved w) {b : MainBlock} {rest : List MainBlock}
    (hq : w.mainQueue = b :: rest) :
    w.outcomes b.load = 0 ∧ rest.countP (·.load == b.load) = 0 := by
  have hb := hc.balance b.load
  have h1 := hc.once b.load
  have hcount : w.queued b.load = rest.countP (·.load == b.load) + 1 := by
    rw [queued, hq, List.countP_cons]; simp
  omega

theorem StagesOK.head {w : World} (hw : StagesOK w) (hc : Conserved w) {b : MainBlock}
    {rest : List MainBlock} (hq : w.mainQueue = b :: rest)
    (hb : ∀ m response, b ≠ .success m b.load response) : w.stages b.load = [] := by
  by_contra hne
  obtain ⟨ho, hrest⟩ := hc.head hq
  rcases hw.ended b.load hne with h | ⟨m, response, hm⟩
  · omega
  · rw [hq, List.mem_cons] at hm
    rcases hm with hm | hm
    · exact hb m response hm.symm
    · have : 0 < rest.countP (·.load == b.load) :=
        List.countP_pos_iff.2 ⟨_, hm, by simp [MainBlock.load]⟩
      omega

/-- What a load does in one step: its hooks come with an outcome or a success block. -/
theorem StagesOK.append {w w' : World} {m : ManagerId} {j : LoadId} {hooks : List Hook}
    (hw : StagesOK w) (ht : w'.trace = w.trace ++ hooks.map fun hook => (m, j, hook))
    (hq : ∀ m' k response, k ≠ j → MainBlock.success m' k response ∈ w.mainQueue →
      MainBlock.success m' k response ∈ w'.mainQueue)
    (hj : w'.stages j ≠ [] →
      0 < w'.outcomes j ∨ ∃ m' response, MainBlock.success m' j response ∈ w'.mainQueue)
    (hf : Hook.afterPerformFail ∈ hooks → 0 < w'.outcomes j) : StagesOK w' := by
  have hout : ∀ k, w.outcomes k ≤ w'.outcomes k := fun k => by
    rw [outcomes, outcomes, count_eq_of_trace ht]; exact Nat.le_add_right _ _
  refine ⟨fun k hne => ?_, fun k hmem => ?_⟩
  · by_cases hjk : j = k
    · subst hjk; exact hj hne
    · rw [stages_of_trace ht, if_neg hjk, List.append_nil] at hne
      rcases hw.ended k hne with h | ⟨m', response, h⟩
      · exact Or.inl (h.trans_le (hout k))
      · exact Or.inr ⟨m', response, hq m' k response (Ne.symm hjk) h⟩
  · rw [hooksOf_of_trace ht, List.mem_append] at hmem
    rcases hmem with h | h
    · exact (hw.afterFail k h).trans_le (hout k)
    · split_ifs at h with hjk
      · subst hjk; exact hf h
      · exact absurd h List.not_mem_nil

/-- A step that no load sees, and that at most adds to the queue. -/
theorem StagesOK.congr {w w' : World} (hw : StagesOK w) (ht : w'.trace = w.trace)
    (hq : ∀ b ∈ w.mainQueue, b ∈ w'.mainQueue) : StagesOK w' := by
  have hh : ∀ k, w'.hooksOf k = w.hooksOf k := fun k => by rw [hooksOf, ht, hooksOf]
  have hout : ∀ k, w'.outcomes k = w.outcomes k := fun k => by
    rw [outcomes, count, ht, outcomes, count]
  refine ⟨fun k hne => ?_, fun k hmem => by rw [hout]; exact hw.afterFail k (hh k ▸ hmem)⟩
  rw [stages, hh] at hne
  rw [hout]
  refine (hw.ended k hne).imp_right ?_
  rintro ⟨m, response, h⟩
  exact ⟨m, response, hq _ h⟩

theorem InOrder.congr {w w' : World} {k : LoadId} (h : InOrder k w) (ht : w'.trace = w.trace) :
    InOrder k w' := by
  unfold InOrder stages hooksOf at *
  rwa [ht]

/-! ## Endings -/

/-- What an ending of load `k` leaves in the trace. -/
structure EndsInOrder (m : ManagerId) (k : LoadId) (x x' : Effects) (hooks : List Hook) : Prop where
  trace : x'.trace = x.trace ++ hooks
  sorted : (stagesOf hooks).Pairwise (· ≤ ·)
  noAfterFail : Hook.afterPerformFail ∉ hooks
  mark : stagesOf hooks ≠ [] →
    0 < hooks.countP Hook.isOutcome ∨ ∃ response, MainBlock.success m k response ∈ x'.blocks

theorem failed_endsInOrder (c : Context) (m : ManagerId) (k : LoadId)
    (response : Option RCURLResponse) (errorType : RCAPIManagerErrorType) (x : Effects) :
    EndsInOrder m k x (failedOnCallingAPI c m k response errorType x)
      (failMarks c response errorType) := by
  have h0 := failMarks_stages c response errorType
  refine ⟨failed_trace .., by rw [h0]; exact .nil, ?_, fun h => absurd h0 h⟩
  unfold failMarks
  split_ifs <;> simp

theorem performed_endsInOrder (c : Context) (m : ManagerId) (k : LoadId) (response : RCURLResponse)
    (x : Effects) :
    EndsInOrder m k x (performSuccess c m k response x) (successHooks c response) := by
  refine ⟨performSuccess_trace .., successHooks_stages c response, fun h => ?_, fun _ => ?_⟩
  · rcases eq_of_mem_successHooks h with h | h | h | h <;> cases h
  · rw [performSuccess_blocks]
    cases hb : c.beforePerformSuccess response with
    | true => exact Or.inr ⟨response, by simp⟩
    | false =>
      refine Or.inl (List.countP_pos_iff.2 ⟨.vetoed, ?_, rfl⟩)
      simp [successHooks, hb]

theorem successed_endsInOrder [Foundation] {c : Context} {m : ManagerId} {k : LoadId}
    {response : RCURLResponse} {x x' : Effects}
    (h : successedOnCallingAPI c m k response x = some x') :
    ∃ hooks, EndsInOrder m k x x' hooks := by
  obtain ⟨rawData, -, ⟨-, cacheCenter, -, rfl⟩ | ⟨-, rfl⟩⟩ := successed_cases h
  · have hp := performed_endsInOrder c m k response { x.receive response rawData with cacheCenter }
    exact ⟨_, hp.trace, hp.sorted, hp.noAfterFail, hp.mark⟩
  · have hf := failed_endsInOrder c m k (some response) (c.isCorrectWithCallBackData response.content)
      (x.receive response rawData)
    exact ⟨_, hf.trace, hf.sorted, hf.noAfterFail, hf.mark⟩

/-- A load that has been through no stage ends in order. -/
theorem EndsInOrder.leave {m : ManagerId} {j : LoadId} {w : World} {x : Effects} {hooks : List Hook}
    (hx : EndsInOrder m j (w.enter m) x hooks) (hw : StagesOK w) (hj : w.stages j = []) :
    StagesOK (w.leave m j x) ∧ ∀ k, InOrder k w → InOrder k (w.leave m j x) := by
  have ht : (w.leave m j x).trace = w.trace ++ hooks.map fun hook => (m, j, hook) := by
    rw [leave_trace, hx.trace, enter_trace, List.nil_append]
  refine ⟨hw.append ht (fun m' k response _ h => ?_) (fun hne => ?_) fun h => absurd h hx.noAfterFail,
    fun k hk => hk.append ht fun hjk => ⟨hjk ▸ hj, hx.sorted⟩⟩
  · rw [leave_mainQueue]; exact List.mem_append_left _ h
  · rw [stages_of_trace ht, hj, List.nil_append, if_pos rfl] at hne
    rcases hx.mark hne with h | ⟨response, h⟩
    · refine Or.inl ?_
      rw [outcomes, count_eq_of_trace ht, if_pos rfl]
      omega
    · exact Or.inr ⟨m, response, by rw [leave_mainQueue]; exact List.mem_append_right _ h⟩

/-! ## Steps and runs -/

/-- **The condition on a step.** A success block of load `k` that runs after the load's
`afterPerformSuccess` finds nobody to notify. -/
def NotifiesFirst (k : LoadId) (w : World) (s : Step) : Prop :=
  ∀ m response rest, s.event = .runMain → w.mainQueue = .success m k response :: rest →
    Hook.afterPerformSuccess ∈ w.hooksOf k →
    s.context.hasDelegate = false ∧ (w.managers m).successBlock = none

theorem stage_three {hook : Hook} :
    hook.stage = some 3 ↔ hook = .afterPerformSuccess ∨ hook = .afterPerformFail := by
  cases hook with
  | didSuccess delegate block => simp only [Hook.stage]; split_ifs <;> simp
  | didFailed delegate block => simp only [Hook.stage]; split_ifs <;> simp
  | _ => simp [Hook.stage]

theorem stage_le {hook : Hook} {n : ℕ} (h : hook.stage = some n) : n ≤ 3 := by
  cases hook with
  | didSuccess delegate block =>
    simp only [Hook.stage] at h
    split_ifs at h; simp at h; omega
  | didFailed delegate block =>
    simp only [Hook.stage] at h
    split_ifs at h; simp at h; omega
  | _ => simp [Hook.stage] at h <;> omega

/-- All stages come before the last one, if the load has not been through that. -/
theorem stages_le_two {w : World} {k : LoadId} (h : Hook.afterPerformSuccess ∉ w.hooksOf k)
    (h' : Hook.afterPerformFail ∉ w.hooksOf k) : ∀ n ∈ w.stages k, n ≤ 2 := by
  intro n hn
  obtain ⟨hook, hm, hs⟩ := List.mem_filterMap.1 hn
  have hle := stage_le hs
  have hne : n ≠ 3 := by
    rintro rfl
    rcases stage_three.1 hs with rfl | rfl
    · exact h hm
    · exact h' hm
  omega

/-- **A success block keeps the order exactly under the condition.** -/
theorem success_inOrder_iff {c : Context} {w : World} {m : ManagerId} {k : LoadId}
    {response : RCURLResponse} {rest : List MainBlock} (hw : StagesOK w) (hc : Conserved w)
    (hq : w.mainQueue = .success m k response :: rest) (hk : InOrder k w) :
    InOrder k ({ w with mainQueue := rest }.notifySuccess c m k) ↔
      (Hook.afterPerformSuccess ∈ w.hooksOf k →
        c.hasDelegate = false ∧ (w.managers m).successBlock = none) := by
  have ht : ({ w with mainQueue := rest }.notifySuccess c m k).trace =
      w.trace ++ [Hook.didSuccess c.hasDelegate (w.managers m).successBlock].map
        fun hook => (m, k, hook) := rfl
  have hfail : Hook.afterPerformFail ∉ w.hooksOf k := by
    intro h
    have h0 : w.outcomes k = 0 := (hc.head hq).1
    have := hw.afterFail k h
    omega
  unfold InOrder at hk ⊢
  rw [stages_of_trace ht, if_pos rfl]
  cases hn : c.hasDelegate || (w.managers m).successBlock.isSome with
  | false =>
    have hnone := Bool.or_eq_false_iff.1 hn
    have hs : stagesOf [Hook.didSuccess c.hasDelegate (w.managers m).successBlock] = [] := by
      simp [stagesOf, Hook.stage, hn]
    rw [hs, List.append_nil]
    refine iff_of_true hk fun _ => ⟨hnone.1, ?_⟩
    simpa using hnone.2
  | true =>
    have hs : stagesOf [Hook.didSuccess c.hasDelegate (w.managers m).successBlock] = [2] := by
      simp [stagesOf, Hook.stage, hn]
    rw [hs, List.pairwise_append]
    constructor
    · rintro ⟨-, -, hle⟩ hafter
      have h3 : 3 ∈ w.stages k := List.mem_filterMap.2 ⟨_, hafter, rfl⟩
      exact absurd (hle 3 h3 2 (List.mem_singleton_self 2)) (by decide)
    · intro hcond
      refine ⟨hk, List.pairwise_singleton _ _, fun n hmem n' hn' => ?_⟩
      obtain rfl := List.mem_singleton.1 hn'
      refine stages_le_two (fun hafter => ?_) hfail n hmem
      obtain ⟨h1, h2⟩ := hcond hafter
      simp [h1, h2] at hn

theorem stagesOK_started {c : Context} {m : ManagerId} {success fail : Option Block} {w : World}
    (hw : StagesOK w) (hc : Conserved w) (cacheCenter : RCCacheCenter) (params : NSDictionary) :
    let w' := ((w.lookedUp m success fail cacheCenter).startRequest c m w.loads params).1
    StagesOK w' ∧ ∀ k, InOrder k w → InOrder k w' := by
  have hs : stagesOf ([Hook.called success fail] ++
      Context.hookIf (·.afterCallingAPI) c.otherInterceptor .afterCallingAPI) = [] := by
    unfold Context.hookIf
    split <;> rfl
  have ht : ((w.lookedUp m success fail cacheCenter).startRequest c m w.loads params).1.trace =
      w.trace ++ ([Hook.called success fail] ++ Context.hookIf (·.afterCallingAPI)
        c.otherInterceptor .afterCallingAPI).map fun hook => (m, w.loads, hook) := by
    rw [startRequest_trace, List.map_append, ← List.append_assoc]
    rfl
  have h0 := hw.fresh hc (le_refl w.loads)
  refine ⟨hw.append ht (fun _ _ _ _ h => h) (fun hne => ?_) (fun h => ?_), fun k hk =>
    hk.append ht fun hjk => ⟨hjk ▸ h0, by rw [hs]; exact .nil⟩⟩
  · rw [stages_of_trace ht, h0, hs] at hne
    simp at hne
  · rw [List.mem_append] at h
    rcases h with h | h
    · simp at h
    · exact absurd (mem_hookIf h) (by simp)

/-- A call that was let through has been through no stage yet. -/
theorem Opened.stages {m : ManagerId} {success fail : Option Block} {w w₁ : World}
    (ho : Opened m success fail w w₁) (hw : StagesOK w) (hc : Conserved w) :
    StagesOK w₁ ∧ (∀ k, InOrder k w → InOrder k w₁) ∧ w₁.stages w.loads = [] := by
  have ht : w₁.trace = w.trace ++ [Hook.called success fail].map fun hook => (m, w.loads, hook) :=
    ho.trace
  have h0 := hw.fresh hc (le_refl w.loads)
  have hs : w₁.stages w.loads = [] := by rw [stages_of_trace ht, h0, if_pos rfl]; rfl
  refine ⟨hw.append ht (fun _ _ _ _ h => ho.mainQueue ▸ h) (fun hne => absurd hs hne) (fun h => ?_),
    fun k hk => hk.append ht fun hjk => ⟨hjk ▸ h0, .nil⟩, hs⟩
  simp at h

variable [Foundation]

theorem LoadCase.inOrder {c : Context} {m : ManagerId} {params : NSDictionary}
    {success fail : Option Block} {w w' : World} (h : LoadCase c m params success fail w w')
    (hw : StagesOK w) (hc : Conserved w) :
    StagesOK w' ∧ ∀ k, InOrder k w → InOrder k w' := by
  rcases h.inputs with ⟨-, -, rfl | ⟨cacheCenter, rfl⟩⟩ | ⟨cacheCenter, response, x, -, -, hx, rfl⟩ |
    ⟨errorType, w₁, -, hw₁, rfl⟩
  · exact ⟨hw.congr rfl fun _ h => h, fun k hk => hk.congr rfl⟩
  · exact stagesOK_started hw hc cacheCenter params
  · obtain ⟨h1, h2, h3⟩ := (opened_opened m success fail cacheCenter w).stages hw hc
    obtain ⟨hooks, hx⟩ := successed_endsInOrder hx
    obtain ⟨h4, h5⟩ := hx.leave h1 h3
    exact ⟨h4, fun k hk => h5 k (h2 k hk)⟩
  · have ho : Opened m success fail w w₁ := by
      obtain rfl | ⟨cacheCenter, rfl⟩ := hw₁
      · exact opened_opened m success fail w.cacheCenter w
      · exact ⟨rfl, rfl, rfl, rfl, .noNetWork, rfl⟩
    obtain ⟨h1, h2, h3⟩ := ho.stages hw hc
    obtain ⟨h4, h5⟩ := (failed_endsInOrder c m w.loads none errorType (w₁.enter m)).leave h1 h3
    exact ⟨h4, fun k hk => h5 k (h2 k hk)⟩

theorem CompletionCase.inOrder {c : Context} {t : TaskRef} {handler : CompletionHandler}
    {responseObject : Option ResponseObject} {error : Option NSError} {rest : List MainBlock}
    {w w' : World} (h : CompletionCase c t handler responseObject error rest w w')
    (hq : w.mainQueue = .completion t handler responseObject error :: rest) (hw : StagesOK w)
    (hc : Conserved w) : StagesOK w' ∧ ∀ k, InOrder k w → InOrder k w' := by
  have h0 : w.stages handler.load = [] := hw.head hc hq fun _ _ he => by cases he
  -- a completion that leaves the queue is no success block, so no load loses its mark
  have hpop : StagesOK (w.popped t rest) := by
    refine ⟨fun k hne => (hw.ended k hne).imp_right ?_, hw.afterFail⟩
    rintro ⟨m, response, hm⟩
    rw [hq, List.mem_cons] at hm
    exact ⟨m, response, hm.resolve_left fun he => by cases he⟩
  cases h with
  | failed herr =>
    exact (failed_endsInOrder c handler.manager handler.load _ _ _).leave hpop h0
  | succeeded herr hx =>
    obtain ⟨hooks, hx⟩ := successed_endsInOrder hx
    exact hx.leave hpop h0

omit [Foundation] in
/-- A block that notifies leaves the queue with an outcome. -/
theorem StagesOK.notified {w w' : World} (hw : StagesOK w) {b : MainBlock} {rest : List MainBlock}
    {m : ManagerId} {hooks : List Hook} (hq : w.mainQueue = b :: rest) (hq' : w'.mainQueue = rest)
    (ht : w'.trace = w.trace ++ hooks.map fun hook => (m, b.load, hook))
    (ho : hooks.countP Hook.isOutcome = 1) : StagesOK w' := by
  have hpos : 0 < w'.outcomes b.load := by
    rw [outcomes, count_eq_of_trace ht, if_pos rfl]; omega
  refine hw.append ht (fun m' k response hk h => ?_) (fun _ => Or.inl hpos) fun _ => hpos
  rw [hq, List.mem_cons] at h
  rw [hq']
  exact h.resolve_left fun he => hk (by rw [← he]; rfl)

/-- **What an event does to the order of the hooks.** -/
theorem Act.inOrder {c : Context} {w w' : World} {ev : Event} (hc : Conserved w)
    (hw : StagesOK w) (h : Act c w ev w') :
    StagesOK w' ∧ ∀ k, InOrder k w → (InOrder k w' ↔ NotifiesFirst k w ⟨c, ev⟩) := by
  -- every event but the run of a success block keeps the order, and meets the condition
  have hkeep : (StagesOK w' ∧ ∀ k, InOrder k w → InOrder k w') →
      (∀ m k response rest, ev = .runMain → w.mainQueue ≠ .success m k response :: rest) →
      StagesOK w' ∧ ∀ k, InOrder k w → (InOrder k w' ↔ NotifiesFirst k w ⟨c, ev⟩) :=
    fun hk hne => ⟨hk.1, fun k hin => iff_of_true (hk.2 k hin)
      fun m response rest he hq => absurd hq (hne m k response rest he)⟩
  cases h with
  | load hev hcase =>
    obtain ⟨managers, rfl⟩ := hev.frame
    have hw₀ : StagesOK { w with managers } := hw.congr rfl fun _ h => h
    have hc₀ : Conserved { w with managers } := hc.congr (fun _ => rfl) rfl rfl le_rfl
    exact hkeep (hcase.inOrder hw₀ hc₀) fun _ _ _ _ he => by subst he; cases hev
  | finish =>
    exact hkeep ⟨hw.congr rfl fun _ h => List.mem_append_left _ h, fun k hk => hk.congr rfl⟩
      fun _ _ _ _ he => by cases he
  | finishIdle => exact hkeep ⟨hw, fun _ hk => hk⟩ fun _ _ _ _ he => by cases he
  | completion hq hcase =>
    exact hkeep (hcase.inOrder hq hw hc) fun _ _ _ _ _ he => by rw [hq] at he; cases he
  | @success m j response rest hq =>
    refine ⟨hw.notified hq rfl rfl rfl, fun k hk => ?_⟩
    by_cases hjk : j = k
    · subst hjk
      rw [success_inOrder_iff hw hc hq hk]
      constructor
      · intro h m' response' rest' _ hq' hafter
        rw [hq] at hq'
        obtain ⟨hb, -⟩ := List.cons.inj hq'
        obtain ⟨rfl, -, -⟩ := MainBlock.success.inj hb
        exact h hafter
      · intro h hafter
        exact h m response rest rfl hq hafter
    · have ht : ({ w with mainQueue := rest }.notifySuccess c m j).trace = w.trace ++
          [Hook.didSuccess c.hasDelegate (w.managers m).successBlock].map fun hook => (m, j, hook) := rfl
      refine iff_of_true (hk.append ht fun h => absurd h hjk) fun m' response' rest' _ hq' => ?_
      rw [hq] at hq'
      obtain ⟨hb, -⟩ := List.cons.inj hq'
      exact absurd (MainBlock.success.inj hb).2.1 hjk
  | @failed m j response rest hq =>
    obtain ⟨ho, -⟩ := failHooks_countP c response (w.managers m).failBlock
    have h0 : w.stages j = [] := hw.head hc hq fun _ _ he => by cases he
    have ht : ({ w with mainQueue := rest }.notifyFailed c m j response).trace = w.trace ++
        (failHooks c response (w.managers m).failBlock).map fun hook => (m, j, hook) := rfl
    refine hkeep ⟨hw.notified hq rfl ht ho, fun k hk => hk.append ht fun hjk => ?_⟩
      fun _ _ _ _ _ he => by rw [hq] at he; cases he
    exact ⟨hjk ▸ h0, failHooks_stages c response _⟩
  | runIdle hq =>
    exact hkeep ⟨hw, fun _ hk => hk⟩ fun _ _ _ _ _ he => by rw [hq] at he; cases he
  | cancelAll m =>
    exact hkeep ⟨hw.congr rfl fun _ h => h, fun k hk => hk.congr rfl⟩ fun _ _ _ _ he => by cases he
  | cancel m requestID =>
    exact hkeep ⟨hw.congr rfl fun _ h => h, fun k hk => hk.congr rfl⟩ fun _ _ _ _ he => by cases he
  | touch ht =>
    obtain ⟨managers, rfl⟩ := ht.frame
    exact hkeep ⟨hw.congr rfl fun _ h => h, fun k hk => hk.congr rfl⟩
      fun _ _ _ _ he => by subst he; cases ht
  | clean hcl =>
    exact hkeep ⟨hw.congr rfl fun _ h => h, fun k hk => hk.congr rfl⟩
      fun _ _ _ _ he => by subst he; cases hcl

/-- **The hooks of a load come in order exactly when every success block of it that has
somebody to notify runs before its hook after.** -/
theorem inOrder_iff {cacheCenter : RCCacheCenter} {h : List (World × Step)} {w : World}
    (hr : Run step (launch cacheCenter) h w) (k : LoadId) :
    ((∀ q ∈ h, InOrder k q.1) ∧ InOrder k w) ↔ ∀ q ∈ h, NotifiesFirst k q.1 q.2 := by
  refine hr.always_iff (I := fun w => QueueOK w ∧ Conserved w ∧ StagesOK w)
    ⟨queueOK_launch cacheCenter, conserved_launch cacheCenter, stagesOK_launch cacheCenter⟩
    .nil (fun w s w' hI hs => ?_) fun w s w' hI hk hs => ?_
  · have ha := act_of_step hs
    exact ⟨hI.1.act ha, hI.2.1.act hI.1 ha, (ha.inOrder hI.2.1 hI.2.2).1⟩
  · exact ((act_of_step hs).inOrder hI.2.1 hI.2.2).2 k hk

end World

namespace World

/-- A manager with an interceptor that is told when a response comes, and, if `after`, when a
success has been performed. -/
def watched (after : Bool) : Context :=
  { Context.plain .noCache with
    interceptor := some {
      isManager := false
      didReceiveResponse := true
      beforePerformSuccess := none
      afterPerformSuccess := after
      beforePerformFail := none
      afterPerformFail := false
      shouldCallAPI := none
      afterCallingAPI := false } }

/-- Two loads that overlap, whose interceptor is not told afterwards: the hooks of each come in
order. -/
theorem inOrder_two_loads :
    ∃ w, exec step init
        [⟨watched false, .loadData 0⟩, ⟨watched false, .loadData 0⟩,
          ⟨watched false, .finish 0 (some (.object .empty)) none⟩,
          ⟨watched false, .finish 1 (some (.object .empty)) none⟩,
          ⟨watched false, .runMain⟩, ⟨watched false, .runMain⟩,
          ⟨watched false, .runMain⟩, ⟨watched false, .runMain⟩] = some w ∧
      w.hooksOf 1 = [.called none none, .didReceiveResponse, .didSuccess true none] ∧
      ∀ k, InOrder k w := by
  have hr : Run step (launch .init) _ _ := run_of_exec
    ([⟨watched false, .loadData 0⟩, ⟨watched false, .loadData 0⟩,
      ⟨watched false, .finish 0 (some (.object .empty)) none⟩,
      ⟨watched false, .finish 1 (some (.object .empty)) none⟩,
      ⟨watched false, .runMain⟩, ⟨watched false, .runMain⟩,
      ⟨watched false, .runMain⟩, ⟨watched false, .runMain⟩] : List Step) rfl
  refine ⟨_, rfl, rfl, fun k => ((inOrder_iff hr k).2 ?_).2⟩
  -- nobody has been told afterwards, in any state
  have hnot : ∀ (w : World) (s : Step), (w.trace.any fun e => e.2.2 == .afterPerformSuccess) = false →
      NotifiesFirst k w s := by
    intro w s hw m response rest _ _ hafter
    obtain ⟨e, he, hhook⟩ := List.mem_filterMap.1 hafter
    split_ifs at hhook
    have hne := List.any_eq_false.1 hw e he
    rw [Option.some.inj hhook] at hne
    simp at hne
  refine forall_visited_cons (hnot _ _ rfl) rfl <| forall_visited_cons (hnot _ _ rfl) rfl <|
    forall_visited_cons (hnot _ _ rfl) rfl <| forall_visited_cons (hnot _ _ rfl) rfl <|
    forall_visited_cons (hnot _ _ rfl) rfl <| forall_visited_cons (hnot _ _ rfl) rfl <|
    forall_visited_cons (hnot _ _ rfl) rfl <| forall_visited_cons (hnot _ _ rfl) rfl
      forall_visited_nil

/-- **The hook after comes first.** A success whose interceptor is told afterwards: it is told
before the delegate is. -/
theorem after_comes_first :
    ∃ w, exec step init
        [⟨watched true, .loadData 0⟩, ⟨watched true, .finish 0 (some (.object .empty)) none⟩,
          ⟨watched true, .runMain⟩, ⟨watched true, .runMain⟩] = some w ∧
      w.hooksOf 0 = [.called none none, .didReceiveResponse, .afterPerformSuccess,
        .didSuccess true none] ∧
      ¬ InOrder 0 w := by
  refine ⟨_, rfl, rfl, fun h => ?_⟩
  change List.Pairwise (· ≤ ·) [0, 3, 2] at h
  exact absurd h (by decide)

end World

end RCSdk
