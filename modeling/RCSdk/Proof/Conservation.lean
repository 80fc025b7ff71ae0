import RCSdk.Proof.MainQueue

/-!
# Every load that is let through ends once

A load waits in one place at a time: in a running task, in a block of the main queue, or it
has ended with one outcome. `Conserved` is that balance, kept by every step.

* `conserved` (every run): tasks, blocks and outcomes of a load add up to its calls, at most one.
* `isSome_step_iff`: a step raises exactly when a JSON value that may not stand at top level
  has to be written, by the memory tier (`saveMemoryCache`) or by a disk lookup.
* `settling_iff`: every load of a run settles exactly when no step raises so.
* `memory_save_raises`: a string as the whole answer of a server, with the memory tier on.
-/

namespace RCSdk

open Trans

/-- The load a block belongs to. -/
def MainBlock.load : MainBlock → LoadId
  | .completion _ handler _ _ => handler.load
  | .success _ k _ => k
  | .failed _ k _ => k

/-! ## Running tasks of a load -/

/-- The task works for load `k`. -/
def NSURLSessionDataTask.worksFor (k : LoadId) (task : NSURLSessionDataTask) : Bool :=
  task.isActive && task.handler.load == k

namespace RCApiProxy

/-- The tasks at work for load `k`. -/
def running (k : LoadId) (p : RCApiProxy) : ℕ := p.tasks.countP (·.worksFor k)

theorem cancel_worksFor (k : LoadId) (task : NSURLSessionDataTask) :
    task.cancel.worksFor k = task.worksFor k := by
  unfold NSURLSessionDataTask.worksFor NSURLSessionDataTask.isActive NSURLSessionDataTask.cancel
  cases task.state <;> rfl

theorem running_call (handler : CompletionHandler) (k : LoadId) (p : RCApiProxy) :
    (p.callApiWithRequest handler).2.running k = p.running k + if handler.load = k then 1 else 0 := by
  obtain ⟨task, -, hh, hs, -, -, htasks, -, -⟩ := callApiWithRequest_spec handler p
  rw [running, htasks, List.countP_append, running]
  congr 1
  by_cases hk : handler.load = k <;>
    simp [NSURLSessionDataTask.worksFor, NSURLSessionDataTask.isActive, hs, hh, hk]

theorem running_cancel (i : ℤ) (k : LoadId) (p : RCApiProxy) :
    (p.cancelRequestWithRequestID i).running k = p.running k := by
  rw [running, cancelRequestWithRequestID_tasks]
  cases p.dispatchTable i with
  | none => rfl
  | some t => exact Tables.countP_modify_eq fun a _ => cancel_worksFor k a

theorem running_cancelList (ids : List ℤ) (k : LoadId) (p : RCApiProxy) :
    (p.cancelRequestWithRequestIDList ids).running k = p.running k :=
  cancelRequestWithRequestIDList_keeps (P := fun q => q.running k = p.running k)
    (fun i q hq => (running_cancel i k q).trans hq) rfl ids

theorem running_finish {p : RCApiProxy} {t : TaskRef} {task : NSURLSessionDataTask}
    (ht : p.tasks[t]? = some task) (ha : task.isActive = true) (k : LoadId) :
    (p.finish t).running k + (if task.handler.load = k then 1 else 0) = p.running k := by
  have h := Tables.countP_modify_add (f := NSURLSessionDataTask.finish) (p := (·.worksFor k)) ht
  have hf : task.finish.worksFor k = false := by
    simp only [NSURLSessionDataTask.worksFor, NSURLSessionDataTask.finish, if_pos ha]
    rfl
  have hw : task.worksFor k = true ↔ task.handler.load = k := by
    simp [NSURLSessionDataTask.worksFor, ha]
  simp only [hf, hw, Bool.false_eq_true, if_false, Nat.add_zero] at h
  exact h

theorem running_complete {p : RCApiProxy} {t : TaskRef} {task : NSURLSessionDataTask}
    (ht : p.tasks[t]? = some task) (hf : task.state = .finished) (k : LoadId) :
    (p.complete t).running k = p.running k := by
  have hc : (p.complete t).tasks = p.tasks.modify t NSURLSessionDataTask.complete := by
    simp only [RCApiProxy.complete, ht]
  rw [running, hc]
  refine Tables.countP_modify_eq fun a ha => ?_
  obtain rfl := Option.some.inj (ht.symm.trans ha)
  simp [NSURLSessionDataTask.worksFor, NSURLSessionDataTask.isActive, hf,
    NSURLSessionDataTask.complete]

end RCApiProxy

namespace World

/-! ## The balance of a load -/

/-- The blocks of load `k` on the main queue. -/
def queued (k : LoadId) (w : World) : ℕ := w.mainQueue.countP (·.load == k)

/-- How often load `k` did what `p` looks for. -/
def count (p : Hook → Bool) (k : LoadId) (w : World) : ℕ :=
  w.trace.countP fun e => e.2.1 == k && p e.2.2

/-- The outcomes of load `k`. -/
def outcomes (k : LoadId) (w : World) : ℕ := w.count Hook.isOutcome k

/-- How often load `k` was let through. -/
def calls (k : LoadId) (w : World) : ℕ := w.count Hook.isCalled k

/-- **What a load waits for and what it has come to add up.** -/
structure Conserved (w : World) : Prop where
  balance : ∀ k, w.proxy.running k + w.queued k + w.outcomes k = w.calls k
  once : ∀ k, w.calls k ≤ 1
  fresh : ∀ k, w.loads ≤ k → w.calls k = 0

theorem countP_map_hook (p : Hook → Bool) (m : ManagerId) (j k : LoadId) (hooks : List Hook) :
    (hooks.map fun hook => (m, j, hook)).countP (fun e => e.2.1 == k && p e.2.2) =
      if j = k then hooks.countP p else 0 := by
  rw [List.countP_map]
  by_cases hj : j = k
  · simp [hj, Function.comp_def]
  · simp [hj, Function.comp_def]

theorem count_eq_of_trace {w w' : World} {m : ManagerId} {j : LoadId} {hooks : List Hook}
    (h : w'.trace = w.trace ++ hooks.map fun hook => (m, j, hook)) (p : Hook → Bool) (k : LoadId) :
    w'.count p k = w.count p k + if j = k then hooks.countP p else 0 := by
  rw [count, h, List.countP_append, countP_map_hook, count]

theorem conserved_launch (cacheCenter : RCCacheCenter) : Conserved (launch cacheCenter) :=
  ⟨fun _ => rfl, fun _ => Nat.zero_le 1, fun _ _ => rfl⟩

/-- A step that no count sees. -/
theorem Conserved.congr {w w' : World} (hw : Conserved w)
    (hr : ∀ k, w'.proxy.running k = w.proxy.running k) (hq : w'.mainQueue = w.mainQueue)
    (ht : w'.trace = w.trace) (hl : w.loads ≤ w'.loads) : Conserved w' := by
  have hc : ∀ p k, w'.count p k = w.count p k := fun p k => by rw [count, ht, count]
  refine ⟨fun k => ?_, fun k => ?_, fun k hk => ?_⟩
  · rw [hr, queued, hq, outcomes, hc, calls, hc]; exact hw.balance k
  · rw [calls, hc]; exact hw.once k
  · rw [calls, hc]; exact hw.fresh k (hl.trans hk)

/-- **The ending of load `j`** adds one to the blocks and outcomes of that load. -/
theorem ended_counts {m : ManagerId} {j : LoadId} {response : Option RCURLResponse} {w : World}
    {x : Effects} (h : Ended m j response (w.enter m) x) (k : LoadId) :
    (w.leave m j x).queued k + (w.leave m j x).outcomes k =
        w.queued k + w.outcomes k + (if j = k then 1 else 0) ∧
      (w.leave m j x).calls k = w.calls k := by
  obtain ⟨blocks, hooks, hb, hh, hmem, hquiet, hmark⟩ := h.mark
  have ht : (w.leave m j x).trace = w.trace ++ hooks.map fun hook => (m, j, hook) := by
    rw [leave_trace, hh, enter_trace, List.nil_append]
  -- whatever the ending leaves is of its own load
  have hbk : blocks.countP (·.load == k) = if j = k then blocks.length else 0 := by
    have hload : ∀ b ∈ blocks, b.load = j := by
      intro b hbm; obtain rfl | ⟨r, -, rfl⟩ := hmem b hbm <;> rfl
    split_ifs with hjk
    · exact List.countP_eq_length.2 fun b hbm => by simp [hload b hbm, hjk]
    · exact List.countP_eq_zero.2 fun b hbm => by simpa [hload b hbm] using hjk
  have hcalls : hooks.countP Hook.isCalled = 0 :=
    List.countP_eq_zero.2 fun b hbm => by simp [(hquiet b hbm).1]
  have hq : (w.leave m j x).queued k = w.queued k + if j = k then blocks.length else 0 := by
    rw [queued, leave_mainQueue, hb, enter_blocks, List.nil_append, List.countP_append, hbk, queued]
  rw [hq, outcomes, count_eq_of_trace ht, calls, count_eq_of_trace ht, hcalls]
  refine ⟨?_, by simp [calls]⟩
  simp only [outcomes]
  split_ifs <;> omega

theorem opened_calls {m : ManagerId} {success fail : Option Block} {w w₁ : World}
    (h : Opened m success fail w w₁) (k : LoadId) :
    w₁.queued k = w.queued k ∧ w₁.outcomes k = w.outcomes k ∧
      w₁.calls k = w.calls k + if w.loads = k then 1 else 0 := by
  have ht : w₁.trace = w.trace ++ [Hook.called success fail].map fun hook => (m, w.loads, hook) :=
    h.trace
  refine ⟨by rw [queued, h.mainQueue, queued], ?_, ?_⟩
  · rw [outcomes, count_eq_of_trace ht]; simp [outcomes, Hook.isOutcome]
  · rw [calls, count_eq_of_trace ht]; simp [calls, Hook.isCalled]

/-- A load call that was let through: its load waits or has ended, once. -/
theorem Conserved.opened {w w' : World} (hw : Conserved w) (hl : w'.loads = w.loads + 1)
    (hsum : ∀ k, w'.proxy.running k + w'.queued k + w'.outcomes k =
      w.proxy.running k + w.queued k + w.outcomes k + if w.loads = k then 1 else 0)
    (hcalls : ∀ k, w'.calls k = w.calls k + if w.loads = k then 1 else 0) : Conserved w' := by
  refine ⟨fun k => ?_, fun k => ?_, fun k hk => ?_⟩
  · rw [hsum, hcalls, hw.balance]
  · -- the number is a new one, so this call is its first
    rw [hcalls]
    split_ifs with h
    · rw [hw.fresh k h.le]
    · exact hw.once k
  · rw [hl] at hk
    rw [hcalls, if_neg (Nat.ne_of_lt hk), hw.fresh k (Nat.le_of_succ_le hk)]

theorem started_counts (c : Context) (m : ManagerId) (success fail : Option Block)
    (cacheCenter : RCCacheCenter) (params : NSDictionary) (w : World) (k : LoadId) :
    let w' := ((w.lookedUp m success fail cacheCenter).startRequest c m w.loads params).1
    w'.queued k = w.queued k ∧ w'.outcomes k = w.outcomes k ∧
      w'.calls k = w.calls k + (if w.loads = k then 1 else 0) ∧
      w'.proxy.running k = w.proxy.running k + if w.loads = k then 1 else 0 := by
  obtain ⟨hq, ho, hc⟩ := opened_calls (opened_opened m success fail cacheCenter w) k
  have h0 : ∀ p : Hook → Bool, p .afterCallingAPI = false →
      (Context.hookIf (·.afterCallingAPI) c.otherInterceptor .afterCallingAPI).countP p = 0 :=
    fun p hp => countP_hookIf hp
  have ht := startRequest_trace c m w.loads params (w.lookedUp m success fail cacheCenter)
  refine ⟨hq, ?_, ?_, ?_⟩
  · rw [outcomes, count_eq_of_trace ht, h0 _ rfl, ← ho]; simp [outcomes]
  · rw [calls, count_eq_of_trace ht, h0 _ rfl, ← hc]; simp [calls]
  · rw [startRequest_proxy, RCApiProxy.running_call]; rfl

/-- A notification turns its block into an outcome. -/
theorem Conserved.notified {w w' : World} (hw : Conserved w) {b : MainBlock} {rest : List MainBlock}
    {m : ManagerId} {hooks : List Hook} (hq : w.mainQueue = b :: rest)
    (hp : w'.proxy = w.proxy) (hl : w'.loads = w.loads) (hq' : w'.mainQueue = rest)
    (ht : w'.trace = w.trace ++ hooks.map fun hook => (m, b.load, hook))
    (ho : hooks.countP Hook.isOutcome = 1) (hc : hooks.countP Hook.isCalled = 0) :
    Conserved w' := by
  have hcalls : ∀ k, w'.calls k = w.calls k := by
    intro k; rw [calls, count_eq_of_trace ht, hc]; simp [calls]
  refine ⟨fun k => ?_, fun k => by rw [hcalls]; exact hw.once k,
    fun k hk => by rw [hcalls]; exact hw.fresh k (hl ▸ hk)⟩
  have hb := hw.balance k
  have hqk : w.queued k = w'.queued k + if b.load = k then 1 else 0 := by
    rw [queued, hq, List.countP_cons, queued, hq']; simp
  rw [hcalls, hp, outcomes, count_eq_of_trace ht, ho, ← outcomes]
  omega

variable [Foundation]

/-- **Every event keeps the balance.** -/
theorem Conserved.act {c : Context} {w w' : World} {ev : Event} (hq : QueueOK w)
    (hw : Conserved w) (h : Act c w ev w') : Conserved w' := by
  cases h with
  | @load ev m params success fail w₀ w' hev hcase =>
    obtain ⟨managers, rfl⟩ := hev.frame
    have hw₀ : Conserved { w with managers } := hw.congr (fun _ => rfl) rfl rfl le_rfl
    rcases hcase.kinds with rfl | ⟨w₁, response, x, ho, -, hx, rfl⟩ | ⟨cacheCenter, rfl⟩
    · exact hw₀.congr (fun _ => rfl) rfl rfl (Nat.le_succ _)
    · refine hw₀.opened ho.loads (fun k => ?_) (fun k => ?_)
      · obtain ⟨h1, h2, -⟩ := opened_calls ho k
        have h3 := (ended_counts hx k).1
        rw [leave_proxy, ho.proxy, Nat.add_assoc, h3, h1, h2]
        omega
      · rw [(ended_counts hx k).2, (opened_calls ho k).2.2]
    · have hk := started_counts c m success fail cacheCenter params { w with managers }
      refine hw₀.opened rfl (fun k => ?_) (fun k => (hk k).2.2.1)
      obtain ⟨h1, h2, -, h4⟩ := hk k
      rw [h1, h2, h4]
      omega
  | finish t responseObject error task htask hact =>
    -- from the running tasks to the queue
    refine ⟨fun k => ?_, hw.once, hw.fresh⟩
    have h1 := RCApiProxy.running_finish htask hact k
    have h2 := hw.balance k
    simp only [queued, outcomes, calls, count, List.countP_append, List.countP_cons,
      List.countP_nil, MainBlock.load, beq_iff_eq] at h2 ⊢
    omega
  | finishIdle => exact hw
  | @completion t handler responseObject error rest w' hm hcase =>
    obtain ⟨x, hx, rfl⟩ := hcase.ended
    obtain ⟨task, ht, hf, -⟩ := hq.head hm
    -- the completion leaves the queue and one mark of the same load takes its place
    refine ⟨fun k => ?_, fun k => ?_, fun k hk => ?_⟩
    · have h1 := (ended_counts hx k).1
      have h2 := hw.balance k
      have h3 : (w.popped t rest).proxy.running k = w.proxy.running k :=
        RCApiProxy.running_complete ht hf k
      have h4 : w.queued k = (w.popped t rest).queued k + if handler.load = k then 1 else 0 := by
        rw [queued, hm, List.countP_cons, queued]; simp [World.popped, MainBlock.load]
      rw [(ended_counts hx k).2, leave_proxy, h3, Nat.add_assoc, h1]
      change _ = w.calls k
      change _ + (_ + w.outcomes k + _) = _
      omega
    · rw [(ended_counts hx k).2]; exact hw.once k
    · rw [(ended_counts hx k).2]; exact hw.fresh k hk
  | success hm => exact hw.notified hm rfl rfl rfl rfl rfl rfl
  | @failed m k response rest hm =>
    obtain ⟨ho, hc⟩ := failHooks_countP c response (w.managers m).failBlock
    exact hw.notified hm rfl rfl rfl rfl ho hc
  | runIdle => exact hw
  | cancelAll m => exact hw.congr (RCApiProxy.running_cancelList _ · _) rfl rfl le_rfl
  | cancel m requestID => exact hw.congr (RCApiProxy.running_cancel _ · _) rfl rfl le_rfl
  | touch h => obtain ⟨managers, rfl⟩ := h.frame; exact hw.congr (fun _ => rfl) rfl rfl le_rfl
  | clean h => exact hw.congr (fun _ => rfl) rfl rfl le_rfl

/-- **In every run a load waits in one place, or has ended once.** -/
theorem conserved {cacheCenter : RCCacheCenter} {h : List (World × Step)} {w : World}
    (hr : Run step (launch cacheCenter) h w) : Conserved w := by
  have hboth : QueueOK w ∧ Conserved w :=
    hr.invariant (P := fun w => QueueOK w ∧ Conserved w)
      ⟨queueOK_launch cacheCenter, conserved_launch cacheCenter⟩
      fun _ _ _ hw hs => ⟨hw.1.act (act_of_step hs), hw.2.act hw.1 (act_of_step hs)⟩
  exact hboth.2

/-! ## The main queue drains -/

omit [Foundation] in
/-- How many blocks the main queue can still run before a load or a session adds more: a
completion may put one more block on it. -/
def queueWork (w : World) : ℕ := w.mainQueue.length + w.completions.length

omit [Foundation] in
theorem ended_queueWork {m : ManagerId} {k : LoadId} {response : Option RCURLResponse} {w : World}
    {x : Effects} (h : Ended m k response (w.enter m) x) :
    (w.leave m k x).queueWork ≤ w.queueWork + 1 := by
  obtain ⟨blocks, hooks, hb, -, -, -, hmark⟩ := h.mark
  rw [queueWork, completions_leave h, leave_mainQueue, hb, enter_blocks, List.nil_append,
    List.length_append, queueWork]
  omega

omit [Foundation] in
/-- The work of the head of the queue. -/
theorem queueWork_tail {w w' : World} {b : MainBlock} {rest : List MainBlock}
    (hq : w.mainQueue = b :: rest) (hq' : w'.mainQueue = rest) :
    w'.queueWork + 1 + (if b.completed.isSome then 1 else 0) = w.queueWork := by
  simp only [queueWork, completions, hq, hq', List.length_cons, List.filterMap_cons]
  cases b.completed <;> simp <;> omega

/-- **A block that runs takes work off the queue.** -/
theorem Act.queueWork {c : Context} {w w' : World} (h : Act c w .runMain w') :
    w'.queueWork ≤ w.queueWork - 1 := by
  cases h with
  | load hev => cases hev
  | @completion t _ _ _ rest _ hq hcase =>
    obtain ⟨x, hx, rfl⟩ := hcase.ended
    have h1 := ended_queueWork hx
    -- a completion counts for itself and for the block it may queue
    have h2 : (w.popped t rest).queueWork + 1 + 1 = w.queueWork := queueWork_tail hq rfl
    omega
  | @success m k response rest hq =>
    have h : ({ w with mainQueue := rest }.notifySuccess c m k).queueWork + 1 + 0 = w.queueWork :=
      queueWork_tail hq rfl
    omega
  | @failed m k response rest hq =>
    have h : ({ w with mainQueue := rest }.notifyFailed c m k response).queueWork + 1 + 0 =
      w.queueWork := queueWork_tail hq rfl
    omega
  | runIdle hq => simp [World.queueWork, completions, hq]
  | touch h => cases h
  | clean h => cases h

omit [Foundation] in
theorem queueWork_eq_zero {w : World} : w.queueWork = 0 ↔ w.mainQueue = [] := by
  rw [queueWork, Nat.add_eq_zero_iff, List.length_eq_zero_iff]
  exact and_iff_left_of_imp fun hq => by simp [completions, hq]

/-- **The main queue drains** when it runs as many blocks as it has work. -/
theorem drains {w w' : World} (cs : List Context) (hn : w.queueWork ≤ cs.length)
    (he : exec step w (cs.map fun c => ⟨c, .runMain⟩) = some w') : w'.mainQueue = [] := by
  induction cs generalizing w with
  | nil =>
    obtain rfl := Option.some.inj he
    exact queueWork_eq_zero.1 (Nat.le_zero.1 hn)
  | cons c cs ih =>
    obtain ⟨w₁, h1, he⟩ := Option.bind_eq_some_iff.1 he
    refine ih ?_ he
    have := (act_of_step h1).queueWork
    rw [List.length_cons] at hn
    omega

/-! ## When a step raises -/

omit [Foundation] in
/-- The content the response of a completion gets from the service. -/
def contentFor (handler : CompletionHandler) (responseObject : Option ResponseObject)
    (error : Option NSError) : Json :=
  (handler.request.service.resultWithResponseObject responseObject error).1.responseObject.getD .empty

/-- A disk lookup of these parameters finds nothing it cannot write: an entry that has not
expired holds an array or a dictionary. -/
def LookupSerializes (c : Context) (params : NSDictionary) (cacheCenter : RCCacheCenter) : Prop :=
  c.shouldCallAPIWithParams params = true → c.isCorrectWithParamsData params = .noError →
    c.cachePolicy.has .disk = true → c.shouldIgnoreCache = false →
    ∀ content lastUpdateTime cacheTime,
      cacheCenter.diskCacheCenter (RCDiskCacheCenter.actualKey
        (keyFor c params)) = some (.record content lastUpdateTime cacheTime) →
      c.now - lastUpdateTime < cacheTime → content.isTopLevel = true

omit [Foundation] in
/-- A completion that is to be saved in the memory tier has an array or a dictionary. -/
def CompletionSerializes (c : Context) (handler : CompletionHandler)
    (responseObject : Option ResponseObject) (error : Option NSError) : Prop :=
  errorFor handler responseObject error = none →
    c.isCorrectWithCallBackData (some (contentFor handler responseObject error)) = .noError →
    c.cachePolicy.has .memory = true → handler.request.originRequestParams.isSome = true →
    (contentFor handler responseObject error).isTopLevel = true

/-- **What a step has to write may stand at top level.** -/
def Serializes (w : World) (s : Step) : Prop :=
  match s.event with
  | .loadData _ => LookupSerializes s.context (paramsOf s.context s.context.paramsForApi) w.cacheCenter
  | .loadDataWithBlocks _ params _ _ =>
    LookupSerializes s.context (paramsOf s.context params) w.cacheCenter
  | .runMain =>
    match w.mainQueue with
    | .completion _ handler responseObject error :: _ =>
      CompletionSerializes s.context handler responseObject error
    | _ => True
  | _ => True

omit [Foundation] in
theorem has_memory_ne_noCache {policy : RCAPIManagerCachePolicy} (h : policy.has .memory = true) :
    policy ≠ .noCache := by
  rintro rfl; exact absurd h (by decide)

theorem saveResponse_isSome {c : Context} {response : RCURLResponse} {cacheCenter : RCCacheCenter} :
    (saveResponse c response cacheCenter).isSome ↔
      (c.cachePolicy.has .memory = true → response.isCache = false →
        response.originRequestParams.isSome = true →
        ∀ content, response.content = some content → content.isTopLevel = true) := by
  unfold saveResponse
  cases hmem : c.cachePolicy.has .memory with
  | false => split_ifs <;> simp_all
  | true =>
    have hp := has_memory_ne_noCache hmem
    cases hcache : response.isCache with
    | true => simp
    | false =>
      rw [if_pos ⟨hp, rfl⟩, if_pos rfl, Option.isSome_map, RCCacheCenter.saveMemoryCache]
      cases response.originRequestParams <;> cases hc : response.content <;>
        simp [RCMemoryCacheDataCenter.saveCacheWithResponse, dataWithJSONObject, hc]

theorem successed_isSome {c : Context} {m : ManagerId} {k : LoadId} {response : RCURLResponse}
    {x : Effects} : (successedOnCallingAPI c m k response x).isSome ↔
      (rawDataOf response).isSome ∧ (c.isCorrectWithCallBackData response.content = .noError →
        (saveResponse c response x.cacheCenter).isSome) := by
  unfold successedOnCallingAPI
  cases rawDataOf response with
  | none => simp
  | some rawData =>
    simp only [Option.bind_some, Option.isSome_some, true_and]
    split_ifs with h <;> simp [h]

theorem completionHandler_isSome {c : Context} {t : TaskRef} {handler : CompletionHandler}
    {responseObject : Option ResponseObject} {error : Option NSError} {w : World} :
    (w.completionHandler c t handler responseObject error).isSome ↔
      CompletionSerializes c handler responseObject error := by
  unfold completionHandler CompletionSerializes errorFor
  dsimp only
  split
  · rename_i e he; simp [he]
  · rename_i he
    rw [Option.isSome_map, successed_isSome, saveResponse_isSome]
    simp [he, rawDataOf, RCURLResponse.initWithResponseString, contentFor]

theorem fetchDiskCache_isSome {now : ℚ} {service method : String} {params : NSDictionary}
    {cacheCenter : RCCacheCenter} :
    (cacheCenter.fetchDiskCache now service method params).isSome ↔
      ∀ content lastUpdateTime cacheTime,
        cacheCenter.diskCacheCenter (RCDiskCacheCenter.actualKey
          (keyWithServiceIdentifier service method params)) =
            some (.record content lastUpdateTime cacheTime) →
        now - lastUpdateTime < cacheTime → content.isTopLevel = true := by
  rw [RCCacheCenter.fetchDiskCache, Option.isSome_map, RCDiskCacheCenter.fetchCachedRecordWithKey]
  split
  · rename_i content lastUpdateTime cacheTime he
    rw [he]
    dsimp only
    split_ifs with hlt
    · rw [Option.isSome_map, dataWithJSONObject]
      simp [hlt]
    · refine iff_of_true rfl ?_
      rintro _ _ _ h hlt'
      obtain ⟨rfl, rfl, rfl⟩ := (DefaultsValue.record.injEq .. ▸ Option.some.inj h)
      exact absurd hlt' hlt
  · rename_i he
    exact iff_of_true rfl fun content last cacheTime h => absurd h (he content last cacheTime)

/-- A cached response has kept its data, and is never saved. -/
theorem successed_cached_isSome {c : Context} {m : ManagerId} {k : LoadId} {data : NSData}
    {x : Effects} : (successedOnCallingAPI c m k (RCURLResponse.initWithData data) x).isSome := by
  rw [successed_isSome, saveResponse_isSome]
  refine ⟨?_, fun _ _ h => by simp [RCURLResponse.initWithData] at h⟩
  unfold rawDataOf
  split <;> simp [RCURLResponse.getResponseData, RCURLResponse.initWithData]

theorem cachedResponse_isSome {c : Context} {params : NSDictionary} {cacheCenter : RCCacheCenter} :
    (cachedResponse c params cacheCenter).isSome ↔
      (c.cachePolicy.has .disk = true → c.shouldIgnoreCache = false →
        ∀ content lastUpdateTime cacheTime,
          cacheCenter.diskCacheCenter (RCDiskCacheCenter.actualKey
            (keyFor c params)) = some (.record content lastUpdateTime cacheTime) →
          c.now - lastUpdateTime < cacheTime → content.isTopLevel = true) := by
  rw [cachedResponse_eq]
  by_cases hd : c.cachePolicy.has .disk ∧ c.shouldIgnoreCache = false
  · rw [if_pos hd, fetchDiskCache_isSome, forall_prop_of_true hd.1, forall_prop_of_true hd.2,
      memoryLookup_diskCacheCenter]
    rfl
  · rw [if_neg hd]
    exact iff_of_true rfl fun h1 h2 => absurd ⟨h1, h2⟩ hd

theorem loadDataWithParams_isSome {c : Context} {m : ManagerId} {params : Option NSDictionary}
    {success fail : Option Block} {w : World} :
    (w.loadDataWithParams c m params success fail).isSome ↔
      LookupSerializes c (paramsOf c params) w.cacheCenter := by
  unfold LookupSerializes
  rw [loadDataWithParams_eq]
  by_cases hcall : c.shouldCallAPIWithParams (paramsOf c params) = true
  · by_cases herr : c.isCorrectWithParamsData (paramsOf c params) = .noError
    · rw [if_pos hcall, if_pos herr, forall_prop_of_true hcall, forall_prop_of_true herr,
        ← cachedResponse_isSome]
      cases hfind : cachedResponse c (paramsOf c params) w.cacheCenter with
      | none => simp
      | some found =>
        obtain ⟨cacheCenter, response⟩ := found
        refine iff_of_true ?_ rfl
        cases response with
        | none => simp only [Option.bind_some]; split_ifs <;> rfl
        | some response =>
          obtain ⟨data, rfl⟩ := cachedResponse_data hfind
          simp only [Option.bind_some, Option.isSome_map]
          exact successed_cached_isSome
    · rw [if_pos hcall, if_neg herr]
      exact iff_of_true rfl fun _ h => absurd h herr
  · rw [if_neg hcall]
    exact iff_of_true rfl fun h => absurd h hcall

/-- **A step raises exactly when it has to write what may not stand at top level.** -/
theorem isSome_step_iff (w : World) (s : Step) : (w.step s).isSome ↔ Serializes w s := by
  obtain ⟨c, ev⟩ := s
  cases ev with
  | loadData m => rw [step, Option.isSome_map]; exact loadDataWithParams_isSome
  | loadDataWithBlocks m params success fail =>
    rw [step, Option.isSome_map]; exact loadDataWithParams_isSome
  | runMain =>
    cases hq : w.mainQueue with
    | nil => simp [step, Serializes, hq]
    | cons block rest =>
      simp only [step, Serializes, hq]
      cases block with
      | completion t handler responseObject error => exact completionHandler_isSome
      | success m k response => exact iff_of_true rfl trivial
      | failed m k response => exact iff_of_true rfl trivial
  | finish t responseObject error => exact iff_of_true rfl trivial
  | cancelAllRequests m => exact iff_of_true rfl trivial
  | cancelRequestWithRequestId m requestID => exact iff_of_true rfl trivial
  | cleanData m => exact iff_of_true rfl trivial
  | isReachable m => exact iff_of_true rfl trivial
  | isLoading m => exact iff_of_true rfl trivial
  | cleanAllMemoryCache => exact iff_of_true rfl trivial
  | cleanAllDiskCache => exact iff_of_true rfl trivial
  | evict key => exact iff_of_true rfl trivial

/-! ## Every load settles -/

/-- **The loads of a state are settled or on their way**: no load has two outcomes, the main
queue drains as it runs, and once it has drained a load that was let through and has no task
at work has exactly one outcome. -/
structure Settling (w : World) : Prop where
  once : ∀ k, w.outcomes k ≤ 1
  drains : ∀ (cs : List Context) (w' : World), w.queueWork ≤ cs.length →
    exec step w (cs.map fun c => ⟨c, .runMain⟩) = some w' → w'.mainQueue = []
  drained : ∀ m k success fail, (m, k, Hook.called success fail) ∈ w.trace → w.mainQueue = [] →
    (∀ task ∈ w.proxy.tasks, task.isActive = true → task.handler.load ≠ k) → w.outcomes k = 1

theorem Conserved.settling {w : World} (hw : Conserved w) : Settling w := by
  refine ⟨fun k => ?_, fun cs w' hn he => World.drains cs hn he, ?_⟩
  · have h1 := hw.balance k
    have h2 := hw.once k
    omega
  · intro m k success fail hcall hq ht
    have hcalls : 0 < w.calls k := List.countP_pos_iff.2 ⟨_, hcall, by simp [Hook.isCalled]⟩
    have hrun : w.proxy.running k = 0 := List.countP_eq_zero.2 fun task hm => by
      simpa [NSURLSessionDataTask.worksFor] using ht task hm
    have hqueue : w.queued k = 0 := by rw [queued, hq]; rfl
    have h1 := hw.balance k
    have h2 := hw.once k
    omega

/-- **Every load of a run settles exactly when every step can write what it has to.** -/
theorem settling_iff (cacheCenter : RCCacheCenter) (as : List Step) :
    (∃ w, exec step (launch cacheCenter) as = some w ∧ Settling w) ↔
      ∀ q ∈ visited step (launch cacheCenter) as, Serializes q.1 q.2 := by
  have hiff : (exec step (launch cacheCenter) as).isSome ↔
      ∀ q ∈ visited step (launch cacheCenter) as, (step q.1 q.2).isSome := exec_isSome_iff as
  simp only [isSome_step_iff] at hiff
  rw [← hiff, Option.isSome_iff_exists]
  constructor
  · rintro ⟨w, he, -⟩; exact ⟨w, he⟩
  · rintro ⟨w, he⟩; exact ⟨w, he, (conserved (run_of_exec as he)).settling⟩

end World

namespace World

/-- **A load that never ends.** The server answers with a string; the memory tier raises on
it, and the load has no outcome. -/
theorem memory_save_raises :
    (∃ w, exec step init
        [⟨.plain .memory, .loadData 0⟩, ⟨.plain .memory, .finish 0 (some (.object (.str "ok"))) none⟩] =
          some w ∧
      w.calls 0 = 1 ∧ w.outcomes 0 = 0 ∧ w.proxy.running 0 = 0 ∧ w.mainQueue.length = 1 ∧
      w.step ⟨.plain .memory, .runMain⟩ = none) ∧
    ¬ ∃ w, exec step init
        [⟨.plain .memory, .loadData 0⟩, ⟨.plain .memory, .finish 0 (some (.object (.str "ok"))) none⟩,
          ⟨.plain .memory, .runMain⟩] = some w ∧ Settling w := by
  refine ⟨⟨_, rfl, rfl, rfl, rfl, rfl, rfl⟩, ?_⟩
  rintro ⟨w, he, -⟩
  exact absurd (show none = some w from he) (by simp)

end World

end RCSdk
