import RCSdk.Proof.Blocks

/-!
# What a cancel stops

A cancel reaches a load through its task. While the session still works on the task, the
cancel turns its completion into an error; a completion or a notification that already waits
on the main queue runs as if nothing had happened.

* `Doomed`: a load whose only task was cancelled at work; every step keeps it.
* `cancelled_never_succeeds`: such a load is never notified as a success.
* `success_after_cancel`: a cancel after the task has finished; the success still comes.
-/

namespace RCSdk

open Trans

namespace NSURLSessionDataTask

theorem finish_worksFor (k : LoadId) (task : NSURLSessionDataTask) : task.finish.worksFor k = false := by
  unfold worksFor finish isActive
  cases task.state <;> rfl

theorem complete_worksFor (k : LoadId) (task : NSURLSessionDataTask) :
    task.complete.worksFor k = false := rfl

/-- A task at work is being cancelled after a cancel. -/
theorem cancel_state {task : NSURLSessionDataTask} (h : task.isActive = true) :
    task.cancel.state = .canceling := by
  unfold isActive at h
  unfold cancel
  cases hs : task.state <;> simp_all

end NSURLSessionDataTask

namespace World

/-- **The load of this handler can no longer succeed**: its task, if still at work, is being
cancelled, and what waits of it on the main queue is a cancelled completion or a failure. -/
structure Doomed (handler : CompletionHandler) (w : World) : Prop where
  old : handler.load < w.loads
  trace : ∀ m delegate block, (m, handler.load, Hook.didSuccess delegate block) ∉ w.trace
  queue : ∀ b ∈ w.mainQueue, b.load = handler.load →
    (∃ m response, b = .failed m handler.load response) ∨
      ∃ t, b = .completion t handler none (some ⟨NSURLErrorCancelled⟩)
  tasks : ∀ task ∈ w.proxy.tasks, task.worksFor handler.load = true →
    task.handler = handler ∧ task.state = .canceling

variable {handler : CompletionHandler}

/-- A step that appends what is no success of the load. -/
theorem Doomed.mono {w w' : World} (hw : Doomed handler w) (hl : w.loads ≤ w'.loads)
    (ht : ∀ m delegate block, (m, handler.load, Hook.didSuccess delegate block) ∈ w'.trace →
      (m, handler.load, Hook.didSuccess delegate block) ∈ w.trace)
    (hq : ∀ b ∈ w'.mainQueue, b.load = handler.load → b ∈ w.mainQueue ∨
      ∃ m response, b = .failed m handler.load response)
    (hp : ∀ task ∈ w'.proxy.tasks, task.worksFor handler.load = true →
      ∃ a ∈ w.proxy.tasks, a.worksFor handler.load = true ∧ task.handler = a.handler ∧
        (a.state = .canceling → task.state = .canceling)) : Doomed handler w' := by
  refine ⟨hw.old.trans_le hl, fun m delegate block h => hw.trace m delegate block (ht _ _ _ h),
    fun b hb hk => ?_, fun task hm hk => ?_⟩
  · rcases hq b hb hk with h | h
    · exact hw.queue b h hk
    · exact Or.inl h
  · obtain ⟨a, ha, hak, hh, hs⟩ := hp task hm hk
    obtain ⟨h1, h2⟩ := hw.tasks a ha hak
    exact ⟨hh.trans h1, hs h2⟩

/-- Hooks of an ending are no success notification. -/
theorem leave_no_success {m : ManagerId} {k : LoadId} {response : Option RCURLResponse} {w : World}
    {x : Effects} (hx : Ended m k response (w.enter m) x) {m' : ManagerId} {k' : LoadId}
    {delegate : Bool} {block : Option Block}
    (h : (m', k', Hook.didSuccess delegate block) ∈ (w.leave m k x).trace) :
    (m', k', Hook.didSuccess delegate block) ∈ w.trace := by
  obtain ⟨-, hooks, -, hh, -, hquiet, -⟩ := hx.mark
  -- endings only queue notifications; their own hooks are no notifications
  rw [leave_trace, hh, enter_trace, List.nil_append, List.mem_append, List.mem_map] at h
  refine h.resolve_right ?_
  rintro ⟨hook, hm, he⟩
  obtain ⟨-, -, rfl⟩ := by simpa using he
  exact absurd (hquiet _ hm).2 (by simp [Hook.isNotification])

/-- The tasks of a proxy, each as it was or cancelled, keep what is being cancelled. -/
theorem cancelled_tasks {p p' : RCApiProxy}
    (h : ∀ (t : TaskRef) task, p'.tasks[t]? = some task →
      ∃ a, p.tasks[t]? = some a ∧ (task = a.cancel ∨ task = a)) :
    ∀ task ∈ p'.tasks, task.worksFor handler.load = true →
      ∃ a ∈ p.tasks, a.worksFor handler.load = true ∧ task.handler = a.handler ∧
        (a.state = .canceling → task.state = .canceling) := by
  intro task hm hk
  obtain ⟨t, ht⟩ := List.getElem?_of_mem hm
  obtain ⟨a, ha, rfl | rfl⟩ := h t task ht
  · rw [RCApiProxy.cancel_worksFor] at hk
    refine ⟨a, List.mem_of_getElem? ha, hk, rfl, fun hs => ?_⟩
    simp [NSURLSessionDataTask.cancel, hs]
  · exact ⟨task, List.mem_of_getElem? ha, hk, rfl, id⟩

theorem same_tasks {p p' : RCApiProxy} (h : p'.tasks = p.tasks) :
    ∀ task ∈ p'.tasks, task.worksFor handler.load = true →
      ∃ a ∈ p.tasks, a.worksFor handler.load = true ∧ task.handler = a.handler ∧
        (a.state = .canceling → task.state = .canceling) :=
  fun task hm hk => ⟨task, h ▸ hm, hk, rfl, id⟩

/-- The event is a cancel of manager `m` that names id `i`: by its list of ids, or outright. -/
def Cancels (m : ManagerId) (i : ℤ) (w : World) (ev : Event) : Prop :=
  ev = .cancelAllRequests m ∧ i ∈ (w.managers m).requestIdList ∨
    ev = .cancelRequestWithRequestId m i

/-- A load with a task at work is nowhere else. -/
theorem Conserved.alone {w : World} (hw : Conserved w) {t : TaskRef} {task : NSURLSessionDataTask}
    (ht : w.proxy.tasks[t]? = some task) (hact : task.isActive = true) :
    w.proxy.running task.handler.load = 1 ∧ w.queued task.handler.load = 0 ∧
      w.outcomes task.handler.load = 0 ∧ w.calls task.handler.load = 1 := by
  have hrun : 0 < w.proxy.running task.handler.load :=
    List.countP_pos_iff.2 ⟨task, List.mem_of_getElem? ht, by
      simp [NSURLSessionDataTask.worksFor, hact]⟩
  have h1 := hw.balance task.handler.load
  have h2 := hw.once task.handler.load
  omega

/-- **A cancel that finds a task at work dooms its load.** -/
theorem doomed_of_cancel {w w' : World} (hw : Conserved w) {t : TaskRef}
    {task : NSURLSessionDataTask} (ht : w.proxy.tasks[t]? = some task)
    (hact : task.isActive = true) (hl : w'.loads = w.loads) (htrace : w'.trace = w.trace)
    (hq : w'.mainQueue = w.mainQueue)
    (hp : ∀ (u : TaskRef) b, w'.proxy.tasks[u]? = some b →
      ∃ a, w.proxy.tasks[u]? = some a ∧ (b = a.cancel ∨ u ≠ t ∧ b = a)) :
    Doomed task.handler w' := by
  obtain ⟨hrun, hqueue, hout, hcalls⟩ := hw.alone ht hact
  refine ⟨?_, fun m delegate block hm => ?_, fun b hb hk => ?_, fun b hb hk => ?_⟩
  · rw [hl]
    by_contra hge
    rw [hw.fresh _ (not_lt.1 hge)] at hcalls
    exact absurd hcalls (by simp)
  · rw [htrace] at hm
    have := List.countP_eq_zero.1 hout _ hm
    simp [Hook.isOutcome] at this
  · rw [hq] at hb
    have := List.countP_eq_zero.1 hqueue b hb
    simp [hk] at this
  · obtain ⟨u, hu⟩ := List.getElem?_of_mem hb
    obtain ⟨a, ha, hba⟩ := hp u b hu
    have hak : a.worksFor task.handler.load = true := by
      rcases hba with rfl | ⟨-, rfl⟩
      · rwa [RCApiProxy.cancel_worksFor] at hk
      · exact hk
    -- the only task at work for the load is the one the cancel found
    have hut : u = t := Tables.index_unique hrun.le ha ht hak (by
      simp [NSURLSessionDataTask.worksFor, hact])
    subst hut
    obtain rfl := Option.some.inj (ht.symm.trans ha)
    rcases hba with rfl | ⟨hne, -⟩
    · exact ⟨rfl, NSURLSessionDataTask.cancel_state hact⟩
    · exact absurd rfl hne

variable [Foundation]

/-- A load call is of another load, whatever it does. -/
theorem Doomed.load {c : Context} {m : ManagerId} {params : NSDictionary}
    {success fail : Option Block} {w w' : World} (hw : Doomed handler w)
    (h : LoadCase c m params success fail w w') : Doomed handler w' := by
  have hne : w.loads ≠ handler.load := Nat.ne_of_gt hw.old
  rcases h.kinds with rfl | ⟨w₁, response, x, ho, -, hx, rfl⟩ | ⟨cacheCenter, rfl⟩
  · exact hw.mono (Nat.le_succ _) (fun _ _ _ h => h) (fun _ hb _ => Or.inl hb) (same_tasks rfl)
  · refine hw.mono ?_ (fun m' delegate block h => ?_) (fun b hb hk => ?_) ?_
    · rw [leave_loads, ho.loads]; exact Nat.le_succ _
    · have h := leave_no_success hx h
      rw [ho.trace, List.mem_append] at h
      exact h.resolve_right (by simp)
    · rw [leave_mainQueue, ho.mainQueue, List.mem_append] at hb
      refine Or.inl (hb.resolve_right fun hb => hne ?_)
      exact (hx.owner rfl b hb).2.symm.trans hk
    · rw [leave_proxy, ho.proxy]; exact same_tasks rfl
  · refine hw.mono (Nat.le_succ _) (fun m' delegate block h => ?_) (fun b hb _ => Or.inl hb) ?_
    · rw [startRequest_trace, List.mem_append, List.mem_map] at h
      refine (List.mem_append.1 (h.resolve_right ?_)).resolve_right (by simp)
      rintro ⟨hook, hm, he⟩
      rw [mem_hookIf hm] at he
      simp at he
    · intro task hm hk
      obtain ⟨new, -, hh, -, -, -, htasks, -, -⟩ :=
        RCApiProxy.callApiWithRequest_spec (handlerOf c m w.loads params) w.proxy
      rw [startRequest_proxy] at hm
      change task ∈ (w.proxy.callApiWithRequest (handlerOf c m w.loads params)).2.tasks at hm
      rw [htasks, List.mem_append, List.mem_singleton] at hm
      rcases hm with hm | rfl
      · exact ⟨task, hm, hk, rfl, id⟩
      · rw [NSURLSessionDataTask.worksFor, hh] at hk
        exact absurd (by simpa [handlerOf] using hk) fun h : _ ∧ _ => hne h.2

omit [Foundation] in
/-- A task of the load that ends was being cancelled, so that is its outcome. -/
theorem Doomed.finish {w : World} (hw : Doomed handler w) {t : TaskRef}
    {task : NSURLSessionDataTask} (htask : w.proxy.tasks[t]? = some task)
    (hact : task.isActive = true) (responseObject : Option ResponseObject) (error : Option NSError) :
    Doomed handler { w with
      proxy := w.proxy.finish t
      mainQueue := w.mainQueue ++ [.completion t task.handler
        (outcomeOf task responseObject error).1 (outcomeOf task responseObject error).2] } := by
  refine ⟨hw.old, hw.trace, fun b hb hk => ?_, fun task' hm hk => ?_⟩
  · rw [List.mem_append, List.mem_singleton] at hb
    rcases hb with hb | rfl
    · exact hw.queue b hb hk
    · have hwork : task.worksFor handler.load = true := by
        rw [NSURLSessionDataTask.worksFor, hact]
        simpa [MainBlock.load] using hk
      obtain ⟨hh, hs⟩ := hw.tasks task (List.mem_of_getElem? htask) hwork
      exact Or.inr ⟨t, by rw [hh, outcomeOf, if_pos hs]⟩
  · obtain ⟨u, hu⟩ := List.getElem?_of_mem hm
    obtain ⟨a, ha, rfl⟩ := Tables.getElem?_modify_eq_some.1 hu
    split_ifs at hk ⊢
    · rw [NSURLSessionDataTask.finish_worksFor] at hk; exact absurd hk (by simp)
    · exact hw.tasks a (List.mem_of_getElem? ha) hk

/-- A completion of the load is a cancelled one, which its service keeps an error, so the load
has failed; a completion of another load leaves only what is of that load. -/
theorem Doomed.completion {c : Context} {t : TaskRef} {handler' : CompletionHandler}
    {responseObject : Option ResponseObject} {error : Option NSError} {rest : List MainBlock}
    {w w' : World} (hw : Doomed handler w)
    (hservice : errorFor handler none (some ⟨NSURLErrorCancelled⟩) ≠ none)
    (hq : w.mainQueue = .completion t handler' responseObject error :: rest)
    (hcase : CompletionCase c t handler' responseObject error rest w w') : Doomed handler w' := by
  obtain ⟨x, hx, hw'⟩ := hcase.ended
  refine hw.mono ?_ (fun m' delegate block h => ?_) (fun b hb hk => ?_) (fun task hm hk => ?_)
  · rw [hw']; exact le_rfl
  · rw [hw'] at h; exact leave_no_success hx h
  · by_cases hl : handler'.load = handler.load
    · obtain ⟨t', he⟩ := (hw.queue (.completion t handler' responseObject error) (head_mem hq)
        hl).resolve_left (by rintro ⟨_, _, h⟩; simp at h)
      obtain ⟨-, rfl, rfl, rfl⟩ := by simpa using he
      cases hcase with
      | failed herr =>
        rw [leave_mainQueue, failed_blocks, enter_blocks, List.nil_append, List.mem_append] at hb
        refine hb.imp (tail_mem hq b) fun hb => ?_
        split at hb
        · exact ⟨_, _, List.mem_singleton.1 hb⟩
        · simp at hb
      | succeeded herr => exact absurd herr hservice
    · rw [hw', leave_mainQueue, List.mem_append] at hb
      refine Or.inl (hb.elim (tail_mem hq b) fun hb => absurd ?_ hl)
      exact (hx.owner rfl b hb).2.symm.trans hk
  · rw [hw'] at hm
    obtain ⟨u, hu⟩ := List.getElem?_of_mem hm
    obtain ⟨a, ha, rfl⟩ := RCApiProxy.complete_getElem?.1 hu
    split_ifs at hk ⊢
    · rw [NSURLSessionDataTask.complete_worksFor] at hk; exact absurd hk (by simp)
    · exact ⟨a, List.mem_of_getElem? ha, hk, rfl, id⟩

/-- **Every event keeps the load from succeeding.** -/
theorem Doomed.act {c : Context} {w w' : World} {ev : Event} (hw : Doomed handler w)
    (hservice : errorFor handler none (some ⟨NSURLErrorCancelled⟩) ≠ none) (h : Act c w ev w') :
    Doomed handler w' := by
  cases h with
  | @load ev m params success fail w₀ w' hev hcase =>
    obtain ⟨managers, rfl⟩ := hev.frame
    have hw₀ : Doomed handler { w with managers } :=
      hw.mono le_rfl (fun _ _ _ h => h) (fun _ hb _ => Or.inl hb) (same_tasks rfl)
    exact hw₀.load hcase
  | finish t responseObject error task htask hact => exact hw.finish htask hact responseObject error
  | finishIdle => exact hw
  | completion hq hcase => exact hw.completion hservice hq hcase
  | @success m k response rest hq =>
    -- no success of a cancelled load is waiting
    have hk : k ≠ handler.load := by
      rintro rfl
      rcases hw.queue (.success m handler.load response) (head_mem hq) rfl
        with ⟨_, _, h⟩ | ⟨_, h⟩ <;> simp at h
    refine hw.mono le_rfl (fun m' delegate block h => ?_) (fun b hb _ => Or.inl (tail_mem hq b hb))
      (same_tasks rfl)
    · rw [notifySuccess, note_trace, List.mem_append] at h
      refine h.resolve_right fun h => hk ?_
      obtain ⟨-, h, -⟩ := by simpa using h
      exact h.symm
  | @failed m k response rest hq =>
    refine hw.mono le_rfl (fun m' delegate block h => ?_) (fun b hb _ => Or.inl (tail_mem hq b hb))
      (same_tasks rfl)
    · rw [notifyFailed_eq, note_trace, List.mem_append, List.mem_map] at h
      refine h.resolve_right ?_
      rintro ⟨hook, hm, he⟩
      obtain ⟨-, -, rfl⟩ := by simpa using he
      -- the hooks of a failure are none of a success
      exact (mem_failHooks hm).2.1 _ _ rfl
  | runIdle => exact hw
  | cancelAll m =>
    refine hw.mono le_rfl (fun _ _ _ h => h) (fun _ hb _ => Or.inl hb) (cancelled_tasks ?_)
    intro t task ht
    obtain ⟨a, ha, h⟩ := RCApiProxy.cancelRequestWithRequestIDList_getElem?.1 ht
    exact ⟨a, ha, h.imp And.right And.right⟩
  | cancel m requestID =>
    refine hw.mono le_rfl (fun _ _ _ h => h) (fun _ hb _ => Or.inl hb) (cancelled_tasks ?_)
    intro t task ht
    obtain ⟨a, ha, rfl⟩ := RCApiProxy.cancelRequestWithRequestID_getElem?.1 ht
    refine ⟨a, ha, ?_⟩
    split_ifs
    · exact Or.inl rfl
    · exact Or.inr rfl
  | touch h =>
    obtain ⟨managers, rfl⟩ := h.frame
    exact hw.mono le_rfl (fun _ _ _ h => h) (fun _ hb _ => Or.inl hb) (same_tasks rfl)
  | clean h => exact hw.mono le_rfl (fun _ _ _ h => h) (fun _ hb _ => Or.inl hb) (same_tasks rfl)

/-- **Once cancelled at work, a load never succeeds.** In every run a cancel that names the id
of a task at work, and finds the task by it, is followed by no success notification of its
load, if the service leaves the cancellation an error. -/
theorem cancelled_never_succeeds {cacheCenter : RCCacheCenter} {h h' : List (World × Step)}
    {w w' w'' : World} {s : Step} {m : ManagerId} {t : TaskRef} {task : NSURLSessionDataTask}
    (hr : Run step (launch cacheCenter) h w) (ht : w.proxy.tasks[t]? = some task)
    (hact : task.isActive = true) (hfound : w.proxy.dispatchTable task.taskIdentifier = some t)
    (hcancel : Cancels m task.taskIdentifier w s.event) (hs : w.step s = some w')
    (hservice : errorFor task.handler none (some ⟨NSURLErrorCancelled⟩) ≠ none)
    (hr' : Run step w' h' w'') :
    ∀ m' delegate block, (m', task.handler.load, Hook.didSuccess delegate block) ∉ w''.trace := by
  have hdoom : Doomed task.handler w' := by
    obtain ⟨c, ev⟩ := s
    rcases hcancel with ⟨rfl, hi⟩ | rfl
    · obtain rfl := Option.some.inj hs
      refine doomed_of_cancel (conserved hr) ht hact rfl rfl rfl fun u b hu => ?_
      obtain ⟨a, ha, ⟨-, rfl⟩ | ⟨hnone, rfl⟩⟩ := RCApiProxy.cancelRequestWithRequestIDList_getElem?.1 hu
      · exact ⟨a, ha, Or.inl rfl⟩
      · exact ⟨b, ha, Or.inr ⟨fun hut => hnone _ hi (hut ▸ hfound), rfl⟩⟩
    · obtain rfl := Option.some.inj hs
      refine doomed_of_cancel (conserved hr) ht hact rfl rfl rfl fun u b hu => ?_
      obtain ⟨a, ha, rfl⟩ := RCApiProxy.cancelRequestWithRequestID_getElem?.1 hu
      refine ⟨a, ha, ?_⟩
      split_ifs with hu'
      · exact Or.inl rfl
      · exact Or.inr ⟨fun hut => hu' (hut ▸ hfound), rfl⟩
  exact (hr'.invariant hdoom fun _ _ _ hw hs => hw.act hservice (act_of_step hs)).trace

end World

namespace World

/-- A cancelled load ends as a failure. -/
theorem cancelled_one_load :
    ∃ w w', exec step init [⟨.plain .noCache, .loadData 0⟩] = some w ∧
      Cancels 0 1 w (.cancelAllRequests 0) ∧
      exec step w [⟨.plain .noCache, .cancelAllRequests 0⟩,
        ⟨.plain .noCache, .finish 0 (some (.object (.obj []))) none⟩,
        ⟨.plain .noCache, .runMain⟩, ⟨.plain .noCache, .runMain⟩] = some w' ∧
      w'.mainQueue = [] ∧ w'.outcomes 0 = 1 ∧
      ∀ m' delegate block, (m', 0, Hook.didSuccess delegate block) ∉ w'.trace := by
  refine ⟨_, _, rfl, Or.inl ⟨rfl, by decide⟩, rfl, rfl, rfl, ?_⟩
  have hr : Run step init _ _ := run_of_exec [⟨.plain .noCache, .loadData 0⟩] rfl
  refine cancelled_never_succeeds (m := 0) (t := 0) hr rfl rfl rfl (Or.inl ⟨rfl, by decide⟩)
    (s := ⟨.plain .noCache, .cancelAllRequests 0⟩) rfl ?_ (run_of_exec
      [⟨.plain .noCache, .finish 0 (some (.object (.obj []))) none⟩, ⟨.plain .noCache, .runMain⟩,
        ⟨.plain .noCache, .runMain⟩] rfl)
  exact nofun

/-- **Cancelled, and a success all the same.** The task has finished when `cancelAllRequests`
names it; its completion and its notification run afterwards. -/
theorem success_after_cancel :
    ∃ w w', exec step init [⟨.plain .noCache, .loadData 0⟩,
        ⟨.plain .noCache, .finish 0 (some (.object (.obj []))) none⟩] = some w ∧
      Cancels 0 1 w (.cancelAllRequests 0) ∧ w.proxy.dispatchTable 1 = some 0 ∧
      exec step w [⟨.plain .noCache, .cancelAllRequests 0⟩, ⟨.plain .noCache, .runMain⟩,
        ⟨.plain .noCache, .runMain⟩] = some w' ∧
      w.outcomes 0 = 0 ∧ (0, 0, Hook.didSuccess true none) ∈ w'.trace := by
  exact ⟨_, _, rfl, Or.inl ⟨rfl, by decide⟩, rfl, rfl, rfl, by decide⟩

end World

end RCSdk
