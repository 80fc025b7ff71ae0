import RCSdk.Proof.ProxyTable
import RCSdk.Proof.WorldStep

/-!
# The main queue and the tasks

* `QueueOK`, `queue_ok`: the completions waiting on the main queue are those of finished
  tasks, at most one of each.
* `proxy_run`: the proxy of a run of the world runs by the events of `RCApiProxy.step`, so
  that what holds of every run of the proxy (`table_sound`) holds here.
-/

namespace RCSdk

open Trans

/-- The task and the handler of a completion. -/
def MainBlock.completed : MainBlock → Option (TaskRef × CompletionHandler)
  | .completion t handler _ _ => some (t, handler)
  | _ => none

/-- An ending puts no completion on the main queue. -/
theorem Ended.no_completion {m : ManagerId} {k : LoadId} {response : Option RCURLResponse}
    {x x' : Effects} (h : Ended m k response x x') (hx : x.blocks = []) :
    x'.blocks.filterMap MainBlock.completed = [] := by
  obtain ⟨blocks, -, hb, -, hmem, -, -⟩ := h.mark
  rw [hb, hx, List.nil_append, List.filterMap_eq_nil_iff]
  intro b hbm
  obtain rfl | ⟨r, -, rfl⟩ := hmem b hbm <;> rfl

namespace RCApiProxy

/-- The finished tasks of `p` are finished in `p'`, with their handlers. -/
def KeepsFinished (p p' : RCApiProxy) : Prop :=
  ∀ (t : TaskRef) task, p.tasks[t]? = some task → task.state = .finished →
    ∃ task', p'.tasks[t]? = some task' ∧ task'.state = .finished ∧ task'.handler = task.handler

theorem KeepsFinished.refl (p : RCApiProxy) : KeepsFinished p p :=
  fun _ task ht hf => ⟨task, ht, hf, rfl⟩

theorem KeepsFinished.trans {p₁ p₂ p₃ : RCApiProxy} (h : KeepsFinished p₁ p₂)
    (h' : KeepsFinished p₂ p₃) : KeepsFinished p₁ p₃ := by
  intro t task ht hf
  obtain ⟨task', ht', hf', hh⟩ := h t task ht hf
  obtain ⟨task'', ht'', hf'', hh'⟩ := h' t task' ht' hf'
  exact ⟨task'', ht'', hf'', hh'.trans hh⟩

theorem keepsFinished_call (handler : CompletionHandler) (p : RCApiProxy) :
    KeepsFinished p (p.callApiWithRequest handler).2 := by
  intro t task ht hf
  obtain ⟨_, -, -, -, -, -, htasks, -, -⟩ := callApiWithRequest_spec handler p
  refine ⟨task, ?_, hf, rfl⟩
  rw [htasks]
  exact Tables.getElem?_concat_eq_some.2 (Or.inl ht)

theorem keepsFinished_cancel (i : ℤ) (p : RCApiProxy) :
    KeepsFinished p (p.cancelRequestWithRequestID i) := by
  intro t task ht hf
  refine ⟨_, cancelRequestWithRequestID_getElem?.2 ⟨task, ht, rfl⟩, ?_, ?_⟩
  · split_ifs
    · simp [NSURLSessionDataTask.cancel, hf]
    · exact hf
  · split_ifs <;> rfl

theorem keepsFinished_cancelList (ids : List ℤ) (p : RCApiProxy) :
    KeepsFinished p (p.cancelRequestWithRequestIDList ids) :=
  cancelRequestWithRequestIDList_keeps (P := KeepsFinished p)
    (fun i q hq => hq.trans (keepsFinished_cancel i q)) (.refl p) ids

end RCApiProxy

namespace World

/-- The completions waiting on the main queue. -/
def completions (w : World) : List (TaskRef × CompletionHandler) :=
  w.mainQueue.filterMap MainBlock.completed

/-- **The completions on the main queue belong to finished tasks, one to each.** -/
structure QueueOK (w : World) : Prop where
  finished : ∀ q ∈ w.completions, ∃ task, w.proxy.tasks[q.1]? = some task ∧
    task.state = .finished ∧ task.handler = q.2
  nodup : (w.completions.map Prod.fst).Nodup

theorem queueOK_launch (cacheCenter : RCCacheCenter) : QueueOK (launch cacheCenter) :=
  ⟨by simp [completions, launch], by simp [completions, launch]⟩

/-- A step that takes no task out of its finished state and queues no completion. -/
theorem QueueOK.mono {w w' : World} (hw : QueueOK w) (ht : w.proxy.KeepsFinished w'.proxy)
    (hq : w'.completions = w.completions) : QueueOK w' := by
  refine ⟨fun q hqm => ?_, hq ▸ hw.nodup⟩
  obtain ⟨task, ht1, hf, hh⟩ := hw.finished q (hq ▸ hqm)
  obtain ⟨task', ht', hf', hh'⟩ := ht q.1 task ht1 hf
  exact ⟨task', ht', hf', hh'.trans hh⟩

/-- A manager's method that ends a load queues no completion. -/
theorem completions_leave {m : ManagerId} {k : LoadId} {response : Option RCURLResponse}
    {w : World} {x : Effects} (h : Ended m k response (w.enter m) x) :
    (w.leave m k x).completions = w.completions := by
  simp [completions, List.filterMap_append, h.no_completion rfl]

/-- The head of the queue is the completion of a finished task, and of no other block's. -/
theorem QueueOK.head {w : World} (hw : QueueOK w) {t : TaskRef} {handler : CompletionHandler}
    {responseObject : Option ResponseObject} {error : Option NSError} {rest : List MainBlock}
    (hq : w.mainQueue = .completion t handler responseObject error :: rest) :
    ∃ task, w.proxy.tasks[t]? = some task ∧ task.state = .finished ∧ task.handler = handler :=
  hw.finished (t, handler) (by simp [completions, hq, MainBlock.completed])

theorem QueueOK.finish {w : World} (hw : QueueOK w) {t : TaskRef} {task : NSURLSessionDataTask}
    (htask : w.proxy.tasks[t]? = some task) (hact : task.isActive = true)
    (responseObject : Option ResponseObject) (error : Option NSError) :
    QueueOK { w with
      proxy := w.proxy.finish t
      mainQueue := w.mainQueue ++ [.completion t task.handler responseObject error] } := by
  have hc : ∀ w' : World,
      w'.mainQueue = w.mainQueue ++ [.completion t task.handler responseObject error] →
      w'.completions = w.completions ++ [(t, task.handler)] := by
    intro w' h; simp [completions, h, MainBlock.completed]
  -- the task was at work, so no completion of it waits yet
  have hne : ∀ q ∈ w.completions, q.1 ≠ t := by
    intro q hq heq
    obtain ⟨a, ha, hf, -⟩ := hw.finished q hq
    obtain rfl : task = a := Option.some.inj (htask.symm.trans (heq ▸ ha))
    simp [NSURLSessionDataTask.isActive, hf] at hact
  refine ⟨fun q hq => ?_, ?_⟩
  · rw [hc _ rfl, List.mem_append, List.mem_singleton] at hq
    rcases hq with hq | rfl
    · obtain ⟨a, ha, hf, hh⟩ := hw.finished q hq
      exact ⟨a, Tables.getElem?_modify_eq_some.2 ⟨a, ha, by rw [if_neg (hne q hq).symm]⟩, hf, hh⟩
    · refine ⟨task.finish, Tables.getElem?_modify_eq_some.2 ⟨task, htask, by rw [if_pos rfl]⟩, ?_, rfl⟩
      simp [NSURLSessionDataTask.finish, hact]
  · rw [hc _ rfl, List.map_append, List.nodup_append]
    refine ⟨hw.nodup, by simp, ?_⟩
    rintro _ h1 u h2 rfl
    obtain ⟨q, hq, rfl⟩ := List.mem_map.1 h1
    exact hne q hq (by simpa using h2)

/-- Running a completion takes its task, and no other, out of the finished ones. -/
theorem QueueOK.popped {w : World} (hw : QueueOK w) {t : TaskRef} {handler : CompletionHandler}
    {responseObject : Option ResponseObject} {error : Option NSError} {rest : List MainBlock}
    (hq : w.mainQueue = .completion t handler responseObject error :: rest) :
    QueueOK (w.popped t rest) := by
  have hc : w.completions = (t, handler) :: (w.popped t rest).completions := by
    simp [completions, hq, MainBlock.completed, World.popped]
  obtain ⟨hne, hnd⟩ : t ∉ (w.popped t rest).completions.map Prod.fst ∧ _ :=
    List.nodup_cons.1 (by simpa [hc] using hw.nodup)
  refine ⟨fun q hqm => ?_, hnd⟩
  obtain ⟨task, ht, hf, hh⟩ := hw.finished q (by rw [hc]; exact List.mem_cons_of_mem _ hqm)
  refine ⟨task, RCApiProxy.complete_getElem?.2 ⟨task, ht, ?_⟩, hf, hh⟩
  rw [if_neg]
  rintro rfl
  exact hne (List.mem_map_of_mem hqm)

variable [Foundation]

/-- **Every event keeps the queue in order.** -/
theorem QueueOK.act {c : Context} {w w' : World} {ev : Event} (hw : QueueOK w)
    (h : Act c w ev w') : QueueOK w' := by
  cases h with
  | @load ev m params success fail w₀ w' hev hcase =>
    obtain ⟨managers, rfl⟩ := hev.frame
    have hw₀ : QueueOK { w with managers } := hw.mono (.refl _) rfl
    rcases hcase.kinds with rfl | ⟨w₁, response, x, ho, -, hx, rfl⟩ | ⟨cacheCenter, rfl⟩
    · exact hw₀.mono (.refl _) rfl
    · refine hw₀.mono ?_ ?_
      · rw [leave_proxy, ho.proxy]; exact .refl _
      · rw [completions_leave hx, completions, ho.mainQueue, completions]
    · exact hw₀.mono (RCApiProxy.keepsFinished_call _ _) rfl
  | finish t responseObject error task htask hact => exact hw.finish htask hact ..
  | finishIdle t responseObject error => exact hw
  | completion hq hcase =>
    obtain ⟨x, hx, rfl⟩ := hcase.ended
    exact (hw.popped hq).mono (.refl _) (completions_leave hx)
  | success hq => exact hw.mono (.refl _) (by rw [completions, completions, hq]; rfl)
  | failed hq => exact hw.mono (.refl _) (by rw [completions, completions, hq]; rfl)
  | runIdle hq => exact hw
  | cancelAll m => exact hw.mono (RCApiProxy.keepsFinished_cancelList _ _) rfl
  | cancel m requestID => exact hw.mono (RCApiProxy.keepsFinished_cancel _ _) rfl
  | touch h => obtain ⟨managers, rfl⟩ := h.frame; exact hw.mono (.refl _) rfl
  | clean h => exact hw.mono (.refl _) rfl

/-- **In every run the queue is in order.** -/
theorem queue_ok {cacheCenter : RCCacheCenter} {h : List (World × Step)} {w : World}
    (hr : Run step (launch cacheCenter) h w) : QueueOK w :=
  hr.invariant (queueOK_launch cacheCenter) fun _ _ _ hw hs => hw.act (act_of_step hs)

/-! ## The proxy of a run -/

/-- What an event does to the proxy is an event of the proxy, or nothing. -/
theorem Act.proxy {c : Context} {w w' : World} {ev : Event} (hw : QueueOK w) (h : Act c w ev w') :
    w'.proxy = w.proxy ∨ ∃ e, w.proxy.step e = some w'.proxy := by
  cases h with
  | @load ev m params success fail w₀ w' hev hcase =>
    obtain ⟨managers, rfl⟩ := hev.frame
    rcases hcase.kinds with rfl | ⟨w₁, response, x, ho, -, -, rfl⟩ | ⟨cacheCenter, rfl⟩
    · exact Or.inl rfl
    · exact Or.inl (by rw [leave_proxy, ho.proxy])
    · exact Or.inr ⟨.callApiWithRequest (handlerOf c m w.loads params), rfl⟩
  | finish t => exact Or.inr ⟨.finish t, rfl⟩
  | finishIdle => exact Or.inl rfl
  | @completion t _ _ _ _ _ hq hcase =>
    obtain ⟨x, -, rfl⟩ := hcase.ended
    -- the proxy lets only a finished task complete, and the head of the queue is one
    obtain ⟨task, ht, hf, -⟩ := hw.head hq
    refine Or.inr ⟨.complete t, ?_⟩
    rw [RCApiProxy.step, if_pos (RCApiProxy.isFinished_iff.2 ⟨task, ht, hf⟩)]
    rfl
  | success => exact Or.inl rfl
  | failed => exact Or.inl rfl
  | runIdle => exact Or.inl rfl
  | cancelAll m => exact Or.inr ⟨.cancelRequestWithRequestIDList (w.managers m).requestIdList, rfl⟩
  | cancel m requestID => exact Or.inr ⟨.cancelRequestWithRequestID requestID, rfl⟩
  | touch h => obtain ⟨managers, rfl⟩ := h.frame; exact Or.inl rfl
  | clean => exact Or.inl rfl

/-- **The proxy of a run of the world is a run of the proxy.** -/
theorem proxy_run {cacheCenter : RCCacheCenter} {h : List (World × Step)} {w : World}
    (hr : Run step (launch cacheCenter) h w) :
    ∃ h', Run RCApiProxy.step RCApiProxy.init h' w.proxy := by
  induction hr with
  | nil => exact ⟨[], .nil⟩
  | @snoc h w w' s hr hs ih =>
    obtain ⟨h', hp⟩ := ih
    rcases (act_of_step hs).proxy (queue_ok hr) with he | ⟨e, he⟩
    · exact ⟨h', he ▸ hp⟩
    · exact ⟨_, hp.snoc he⟩

theorem table_ok {cacheCenter : RCCacheCenter} {h : List (World × Step)} {w : World}
    (hr : Run step (launch cacheCenter) h w) : w.proxy.TableOK := by
  obtain ⟨h', hp⟩ := proxy_run hr
  exact RCApiProxy.table_sound hp

end World

end RCSdk
