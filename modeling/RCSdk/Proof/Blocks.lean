import RCSdk.Proof.Conservation

/-!
# Which block a load's notification invokes

The blocks of a load are kept in two fields of its manager, which the next load with blocks
overwrites and nothing clears. A notification invokes what the fields hold when it runs.

* `known` (every run): every task and every queued block belongs to a load that was let through.
* `routed_of_kept`: if no load stores other blocks while a load of its manager is
  outstanding, and a load without blocks finds none stored, every notification invokes the
  block passed with its load, and no block more often than it was passed.
* `invoked_twice`: a load with blocks, then one without: its block is invoked again.
-/

namespace RCSdk

open Trans

/-- The manager a block belongs to. -/
def MainBlock.manager : MainBlock → ManagerId
  | .completion _ handler _ _ => handler.manager
  | .success m _ _ => m
  | .failed m _ _ => m

/-- The hook invokes block `b`. -/
def Hook.invokes (b : Block) : Hook → Bool
  | .didSuccess _ b' | .didFailed _ b' => b' == some b
  | _ => false

/-- The hook passes block `b` in. -/
def Hook.passes (b : Block) : Hook → Bool
  | .called success fail => success == some b || fail == some b
  | _ => false

theorem Ended.owner {m : ManagerId} {k : LoadId} {response : Option RCURLResponse} {x x' : Effects}
    (h : Ended m k response x x') (hx : x.blocks = []) :
    ∀ b ∈ x'.blocks, b.manager = m ∧ b.load = k := by
  obtain ⟨blocks, -, hb, -, hmem, -, -⟩ := h.mark
  intro b hbm
  rw [hb, hx, List.nil_append] at hbm
  obtain rfl | ⟨r, -, rfl⟩ := hmem b hbm <;> exact ⟨rfl, rfl⟩

namespace RCApiProxy

/-- The completion handlers of all tasks. -/
def handlers (p : RCApiProxy) : List CompletionHandler := p.tasks.map (·.handler)

theorem handlers_call (handler : CompletionHandler) (p : RCApiProxy) :
    (p.callApiWithRequest handler).2.handlers = p.handlers ++ [handler] := by
  obtain ⟨task, -, hh, -, -, -, htasks, -, -⟩ := callApiWithRequest_spec handler p
  rw [handlers, htasks, List.map_append, List.map_singleton, hh, handlers]

theorem handlers_cancel (i : ℤ) (p : RCApiProxy) :
    (p.cancelRequestWithRequestID i).handlers = p.handlers := by
  rw [handlers, cancelRequestWithRequestID_tasks]
  cases p.dispatchTable i with
  | none => rfl
  | some t => exact Tables.map_modify_eq fun _ _ => rfl

theorem handlers_cancelList (ids : List ℤ) (p : RCApiProxy) :
    (p.cancelRequestWithRequestIDList ids).handlers = p.handlers :=
  cancelRequestWithRequestIDList_keeps (P := fun q => q.handlers = p.handlers)
    (fun i q hq => (handlers_cancel i q).trans hq) rfl ids

theorem handlers_finish (t : TaskRef) (p : RCApiProxy) : (p.finish t).handlers = p.handlers :=
  Tables.map_modify_eq fun _ _ => rfl

theorem handlers_complete (t : TaskRef) (p : RCApiProxy) : (p.complete t).handlers = p.handlers := by
  unfold RCApiProxy.complete
  split
  · exact Tables.map_modify_eq fun _ _ => rfl
  · rfl

end RCApiProxy

namespace World

/-! ## Every waiting load is known -/

/-- Load `k` of manager `m` was let through. -/
def Called (m : ManagerId) (k : LoadId) (w : World) : Prop :=
  ∃ success fail, (m, k, Hook.called success fail) ∈ w.trace

/-- Tasks and queued blocks belong to loads that were let through. -/
structure Known (w : World) : Prop where
  tasks : ∀ handler ∈ w.proxy.handlers, Called handler.manager handler.load w
  blocks : ∀ b ∈ w.mainQueue, Called b.manager b.load w

theorem Called.mono {m : ManagerId} {k : LoadId} {w w' : World} (h : Called m k w)
    (ht : w.trace ⊆ w'.trace) : Called m k w' := by
  obtain ⟨success, fail, hm⟩ := h
  exact ⟨success, fail, ht hm⟩

/-- A step that adds neither tasks nor blocks of other loads. -/
theorem Known.mono {w w' : World} (hw : Known w) (ht : w.trace ⊆ w'.trace)
    (hh : ∀ handler ∈ w'.proxy.handlers, handler ∈ w.proxy.handlers ∨
      Called handler.manager handler.load w')
    (hb : ∀ b ∈ w'.mainQueue, b ∈ w.mainQueue ∨ Called b.manager b.load w') : Known w' := by
  refine ⟨fun handler h => ?_, fun b h => ?_⟩
  · exact (hh handler h).elim (fun h => (hw.tasks handler h).mono ht) id
  · exact (hb b h).elim (fun h => (hw.blocks b h).mono ht) id

/-- An ending of a known load. -/
theorem Known.leave {m : ManagerId} {k : LoadId} {response : Option RCURLResponse} {w : World}
    {x : Effects} (hw : Known w) (hx : Ended m k response (w.enter m) x) (hk : Called m k w) :
    Known (w.leave m k x) := by
  have ht : w.trace ⊆ (w.leave m k x).trace := by
    obtain ⟨-, hooks, -, hh, -⟩ := hx.mark
    rw [leave_trace, hh]
    exact List.subset_append_left _ _
  refine hw.mono ht (fun _ h => Or.inl h) fun b hb => ?_
  rw [leave_mainQueue, List.mem_append] at hb
  refine hb.imp_right fun hb => ?_
  obtain ⟨h1, h2⟩ := hx.owner rfl b hb
  rw [h1, h2]
  exact hk.mono ht

section KnownRuns

variable [Foundation]

/-- **Every event keeps the waiting loads known.** -/
theorem Known.act {c : Context} {w w' : World} {ev : Event} (hw : Known w) (h : Act c w ev w') :
    Known w' := by
  cases h with
  | @load ev m params success fail w₀ w' hev hcase =>
    obtain ⟨managers, rfl⟩ := hev.frame
    rcases hcase.kinds with rfl | ⟨w₁, response, x, ho, -, hx, rfl⟩ | ⟨cacheCenter, rfl⟩
    · exact ⟨hw.tasks, hw.blocks⟩
    · have hk : Called m w.loads w₁ := ⟨success, fail, by rw [ho.trace]; simp⟩
      refine Known.leave (hw.mono ?_ ?_ ?_) hx hk
      · rw [ho.trace]; exact List.subset_append_left _ _
      · intro handler h; rw [ho.proxy] at h; exact Or.inl h
      · intro b h; rw [ho.mainQueue] at h; exact Or.inl h
    · refine hw.mono ?_ ?_ fun _ h => Or.inl h
      · rw [startRequest_trace]
        exact List.Subset.trans (List.subset_append_left _ _) (List.subset_append_left _ _)
      · intro handler h
        rw [startRequest_proxy, RCApiProxy.handlers_call, List.mem_append, List.mem_singleton] at h
        refine h.imp_right ?_
        rintro rfl
        refine ⟨success, fail, ?_⟩
        rw [startRequest_trace, lookedUp, opened]
        simp [handlerOf]
  | finish t responseObject error task htask hact =>
    -- the new completion is of a task there was
    have hk := hw.tasks task.handler (List.mem_map_of_mem (List.mem_of_getElem? htask))
    refine hw.mono (List.Subset.refl _) ?_ ?_
    · intro handler h; rw [RCApiProxy.handlers_finish] at h; exact Or.inl h
    · intro b hb
      rw [List.mem_append, List.mem_singleton] at hb
      refine hb.imp_right ?_
      rintro rfl
      exact hk
  | finishIdle => exact hw
  | @completion t handler responseObject error rest w' hq hcase =>
    obtain ⟨x, hx, rfl⟩ := hcase.ended
    have hk : Called handler.manager handler.load (w.popped t rest) :=
      hw.blocks (.completion t handler responseObject error) (head_mem hq)
    refine Known.leave ⟨?_, ?_⟩ hx hk
    · intro handler' h
      rw [World.popped, RCApiProxy.handlers_complete] at h
      exact hw.tasks handler' h
    · intro b hb
      exact hw.blocks b (tail_mem hq b hb)
  | success hq =>
    exact hw.mono (List.subset_append_left _ _) (fun _ h => Or.inl h)
      fun b hb => Or.inl (tail_mem hq b hb)
  | failed hq =>
    exact hw.mono (List.subset_append_left _ _) (fun _ h => Or.inl h)
      fun b hb => Or.inl (tail_mem hq b hb)
  | runIdle => exact hw
  | cancelAll m =>
    refine hw.mono (List.Subset.refl _) (fun handler h => ?_) fun _ h => Or.inl h
    rw [cancelAllRequests, modifyManager_proxy, RCApiProxy.handlers_cancelList] at h
    exact Or.inl h
  | cancel m requestID =>
    refine hw.mono (List.Subset.refl _) (fun handler h => ?_) fun _ h => Or.inl h
    rw [cancelRequestWithRequestId, RCApiProxy.handlers_cancel] at h
    exact Or.inl h
  | touch h => obtain ⟨managers, rfl⟩ := h.frame; exact ⟨hw.tasks, hw.blocks⟩
  | clean h => exact ⟨hw.tasks, hw.blocks⟩

/-- **In every run every waiting load was let through.** -/
theorem known {cacheCenter : RCCacheCenter} {h : List (World × Step)} {w : World}
    (hr : Run step (launch cacheCenter) h w) : Known w :=
  hr.invariant (P := Known)
    ⟨fun _ h => by simp [launch, RCApiProxy.handlers, RCApiProxy.init] at h, fun _ h => by simp [launch] at h⟩
    fun _ _ _ hw hs => hw.act (act_of_step hs)

end KnownRuns

/-! ## Routing -/

/-- The notifications of manager `m` that invoked block `b`. -/
def invocations (m : ManagerId) (b : Block) (w : World) : ℕ :=
  w.trace.countP fun e => e.1 == m && e.2.2.invokes b

/-- The load calls of manager `m` that passed block `b` in and were let through. -/
def passings (m : ManagerId) (b : Block) (w : World) : ℕ :=
  w.trace.countP fun e => e.1 == m && e.2.2.passes b

/-- **The contract of the blocks of manager `m`**: a notification invokes the block passed
with its load, and a block is invoked at most once for each time it was passed. -/
structure Routed (m : ManagerId) (w : World) : Prop where
  success : ∀ k delegate b, (m, k, Hook.didSuccess delegate b) ∈ w.trace →
    ∃ fail, (m, k, Hook.called b fail) ∈ w.trace
  failed : ∀ k delegate b, (m, k, Hook.didFailed delegate b) ∈ w.trace →
    ∃ success, (m, k, Hook.called success b) ∈ w.trace
  once : ∀ b, w.invocations m b ≤ w.passings m b

/-- What the routing rests on: the fields of manager `m` hold the blocks of every load of
`m` that has no outcome yet. -/
structure Stored (m : ManagerId) (w : World) : Prop where
  held : ∀ k success fail, (m, k, Hook.called success fail) ∈ w.trace → w.outcomes k = 0 →
    (w.managers m).successBlock = success ∧ (w.managers m).failBlock = fail
  success : ∀ k delegate b, (m, k, Hook.didSuccess delegate b) ∈ w.trace →
    ∃ fail, (m, k, Hook.called b fail) ∈ w.trace
  failed : ∀ k delegate b, (m, k, Hook.didFailed delegate b) ∈ w.trace →
    ∃ success, (m, k, Hook.called success b) ∈ w.trace

/-- **The condition on a step**: a load of manager `m` without blocks finds none stored, and
a load with blocks finds no load of `m` outstanding that was given others. -/
def BlocksKept (m : ManagerId) (w : World) (s : Step) : Prop :=
  match s.event with
  | .loadData m' => m' = m →
    s.context.shouldCallAPIWithParams (paramsOf s.context s.context.paramsForApi) = true →
    (w.managers m).successBlock = none ∧ (w.managers m).failBlock = none
  | .loadDataWithBlocks m' _ success fail => m' = m → ∀ k success' fail',
    (m, k, Hook.called success' fail') ∈ w.trace → w.outcomes k = 0 →
    success = success' ∧ fail = fail'
  | _ => True

variable {m : ManagerId}

/-- Hooks that neither open a load nor notify change no routing. -/
theorem Stored.quiet {w w' : World} {entries : List (ManagerId × LoadId × Hook)} (hw : Stored m w)
    (ht : w'.trace = w.trace ++ entries)
    (hquiet : ∀ e ∈ entries, e.2.2.isCalled = false ∧ e.2.2.isNotification = false)
    (hs : (w'.managers m).successBlock = (w.managers m).successBlock)
    (hf : (w'.managers m).failBlock = (w.managers m).failBlock) : Stored m w' := by
  have hold : ∀ {k hook}, (m, k, hook) ∈ w'.trace → hook.isCalled = true ∨ hook.isNotification = true →
      (m, k, hook) ∈ w.trace := by
    intro k hook h hh
    rw [ht, List.mem_append] at h
    refine h.resolve_right fun h => ?_
    obtain ⟨h1, h2⟩ := hquiet _ h
    simp_all
  refine ⟨fun k success fail h ho => ?_, fun k delegate b h => ?_, fun k delegate b h => ?_⟩
  · rw [hs, hf]
    refine hw.held k success fail (hold h (Or.inl rfl)) ?_
    rw [outcomes, count, ht, List.countP_append] at ho
    exact (Nat.add_eq_zero_iff.1 ho).1
  · obtain ⟨fail, hc⟩ := hw.success k delegate b (hold h (Or.inr rfl))
    exact ⟨fail, by rw [ht]; exact List.mem_append_left _ hc⟩
  · obtain ⟨success, hc⟩ := hw.failed k delegate b (hold h (Or.inr rfl))
    exact ⟨success, by rw [ht]; exact List.mem_append_left _ hc⟩

/-- A step that no notification and no block field sees. -/
theorem Stored.same {w w' : World} (hw : Stored m w) (ht : w'.trace = w.trace)
    (hs : (w'.managers m).successBlock = (w.managers m).successBlock)
    (hf : (w'.managers m).failBlock = (w.managers m).failBlock) : Stored m w' :=
  hw.quiet (ht.trans (List.append_nil _).symm) (by simp) hs hf

/-- A manager changes other fields than the blocks. -/
theorem Stored.fields {w w' : World} (hw : Stored m w) (m' : ManagerId)
    (f : RCAPIBaseManager → RCAPIBaseManager) (ht : w'.trace = w.trace)
    (hm : w'.managers = Function.update w.managers m' (f (w.managers m')))
    (hf : ∀ s, (f s).successBlock = s.successBlock ∧ (f s).failBlock = s.failBlock) :
    Stored m w' := by
  refine hw.same ht ?_ ?_ <;> rw [hm]
  · exact update_reads (·.successBlock) (hf _).1 m
  · exact update_reads (·.failBlock) (hf _).2 m

/-- A load of manager `m'` is let through, with these blocks in the fields of `m'`. -/
theorem Stored.opened {w : World} (hw : Stored m w) {m' : ManagerId} {success fail : Option Block}
    (hfields : m' = m → (w.managers m).successBlock = success ∧ (w.managers m).failBlock = fail) :
    Stored m (w.opened m' success fail) := by
  have ht : (w.opened m' success fail).trace = w.trace ++ [(m', w.loads, .called success fail)] := rfl
  refine ⟨fun k success' fail' h ho => ?_, fun k delegate b h => ?_, fun k delegate b h => ?_⟩
  · rw [ht, List.mem_append] at h
    rcases h with h | h
    · rw [outcomes, count, ht, List.countP_append] at ho
      exact hw.held k success' fail' h (Nat.add_eq_zero_iff.1 ho).1
    · obtain ⟨rfl, rfl, rfl, rfl⟩ : m = m' ∧ k = w.loads ∧ success' = success ∧ fail' = fail := by
        simpa using h
      exact hfields rfl
  · obtain ⟨fail', hc⟩ := hw.success k delegate b ((List.mem_append.1 (ht ▸ h)).resolve_right (by simp))
    exact ⟨fail', by rw [ht]; exact List.mem_append_left _ hc⟩
  · obtain ⟨success', hc⟩ := hw.failed k delegate b ((List.mem_append.1 (ht ▸ h)).resolve_right (by simp))
    exact ⟨success', by rw [ht]; exact List.mem_append_left _ hc⟩

/-- An ending keeps the blocks and notifies nobody. -/
theorem Stored.leave {m' : ManagerId} {k : LoadId} {response : Option RCURLResponse} {w : World}
    {x : Effects} (hw : Stored m w) (hx : Ended m' k response (w.enter m') x) :
    Stored m (w.leave m' k x) := by
  obtain ⟨-, hooks, -, hh, -, hquiet, -⟩ := hx.mark
  have ht : (w.leave m' k x).trace = w.trace ++ hooks.map fun hook => (m', k, hook) := by
    rw [leave_trace, hh, enter_trace, List.nil_append]
  refine hw.quiet ht (fun e he => ?_) ?_ ?_
  · obtain ⟨hook, hm, rfl⟩ := List.mem_map.1 he
    exact hquiet hook hm
  · rw [leave_managers]
    exact update_reads (·.successBlock) hx.successBlock m
  · rw [leave_managers]
    exact update_reads (·.failBlock) hx.failBlock m

/-- A notification invokes the block of its load: the load has no outcome yet. -/
theorem Stored.notified {w w' : World} (hw : Stored m w) {b : MainBlock} {rest : List MainBlock}
    (hc : Conserved w) (hk : Known w) (hq : w.mainQueue = b :: rest) {hooks : List Hook}
    (ht : w'.trace = w.trace ++ hooks.map fun hook => (b.manager, b.load, hook))
    (hm : w'.managers = w.managers)
    (hhooks : ∀ hook ∈ hooks, hook.isCalled = false ∧
      (∀ delegate block, hook = .didSuccess delegate block →
        block = (w.managers b.manager).successBlock) ∧
      (∀ delegate block, hook = .didFailed delegate block →
        block = (w.managers b.manager).failBlock)) : Stored m w' := by
  -- the block itself is all the balance of its load allows
  have hzero : w.outcomes b.load = 0 := by
    have h1 := hc.balance b.load
    have h2 := hc.once b.load
    have h3 : 0 < w.queued b.load := by rw [queued, hq]; simp
    omega
  obtain ⟨success, fail, hcalled⟩ := hk.blocks b (head_mem hq)
  have hcases : ∀ {k hook}, (m, k, hook) ∈ w'.trace →
      (m, k, hook) ∈ w.trace ∨ b.manager = m ∧ b.load = k ∧ hook ∈ hooks := by
    intro k hook h
    rw [ht, List.mem_append, List.mem_map] at h
    refine h.imp_right ?_
    rintro ⟨hook', hmem, he⟩
    obtain ⟨rfl, rfl, rfl⟩ := by simpa using he
    exact ⟨rfl, rfl, hmem⟩
  have hsub : w.trace ⊆ w'.trace := by rw [ht]; exact List.subset_append_left _ _
  refine ⟨fun k success' fail' h ho => ?_, fun k delegate block h => ?_, fun k delegate block h => ?_⟩
  · rcases hcases h with h | ⟨-, -, h⟩
    · rw [outcomes, count, ht, List.countP_append] at ho
      rw [hm]
      exact hw.held k success' fail' h (Nat.add_eq_zero_iff.1 ho).1
    · simpa [Hook.isCalled] using (hhooks _ h).1
  · rcases hcases h with h | ⟨rfl, rfl, hmem⟩
    · obtain ⟨fail', hf⟩ := hw.success k delegate block h
      exact ⟨fail', hsub hf⟩
    · obtain rfl := (hhooks _ hmem).2.1 delegate block rfl
      rw [(hw.held _ success fail hcalled hzero).1]
      exact ⟨fail, hsub hcalled⟩
  · rcases hcases h with h | ⟨rfl, rfl, hmem⟩
    · obtain ⟨success', hs⟩ := hw.failed k delegate block h
      exact ⟨success', hsub hs⟩
    · obtain rfl := (hhooks _ hmem).2.2 delegate block rfl
      rw [(hw.held _ success fail hcalled hzero).2]
      exact ⟨success, hsub hcalled⟩

/-- **The blocks at most once.** A load has one outcome, so it invokes a block once. -/
theorem Stored.routed {w : World} (hw : Stored m w) (hc : Conserved w) : Routed m w := by
  refine ⟨hw.success, hw.failed, fun b => Tables.countP_le_of_keys (fun e => e.2.1) ?_ ?_⟩
  · -- invocations by one load are outcomes of it
    intro k
    refine le_trans (List.countP_mono_left ?_) (hc.settling.once k)
    rintro ⟨m', k', hook⟩ - h
    cases hook <;> simp_all [Hook.invokes, Hook.isOutcome]
  · rintro ⟨m', k, hook⟩ he h
    obtain ⟨hm, hi⟩ : m' = m ∧ hook.invokes b = true := by simpa using h
    subst hm
    cases hook with
    | didSuccess delegate block =>
      obtain rfl : block = some b := by simpa [Hook.invokes] using hi
      obtain ⟨fail, hc⟩ := hw.success k delegate _ he
      exact ⟨_, hc, by simp [Hook.passes], rfl⟩
    | didFailed delegate block =>
      obtain rfl : block = some b := by simpa [Hook.invokes] using hi
      obtain ⟨success, hc⟩ := hw.failed k delegate _ he
      exact ⟨_, hc, by simp [Hook.passes], rfl⟩
    | _ => simp [Hook.invokes] at hi

/-- What the hooks of a fail block say. -/
theorem mem_failHooks {c : Context} {response : Option RCURLResponse} {block : Option Block}
    {hook : Hook} (h : hook ∈ failHooks c response block) :
    hook.isCalled = false ∧ (∀ delegate b, hook ≠ .didSuccess delegate b) ∧
      ∀ delegate b, hook = .didFailed delegate b → b = block := by
  rcases eq_of_mem_failHooks h with rfl | rfl | rfl | rfl <;> simp [Hook.isCalled]

variable [Foundation]

/-- A load call, once its blocks are stored. -/
theorem LoadCase.stored {c : Context} {m' : ManagerId} {params : NSDictionary}
    {success fail : Option Block} {w w' : World} (h : LoadCase c m' params success fail w w')
    (hw : Stored m w) (hfields : m' = m → c.shouldCallAPIWithParams params = true →
      (w.managers m).successBlock = success ∧ (w.managers m).failBlock = fail) : Stored m w' := by
  have hopened : c.shouldCallAPIWithParams params = true → ∀ cacheCenter,
      Stored m (w.lookedUp m' success fail cacheCenter) := by
    intro hcall cacheCenter
    exact (hw.opened fun hm => hfields hm hcall).same rfl rfl rfl
  cases h with
  | notCalled hcall => exact hw.same rfl rfl rfl
  | rejected hcall herr => exact (hopened hcall w.cacheCenter).leave (failed_ended ..)
  | cached hcall herr hfind hx => exact (hopened hcall _).leave (successed_ended hx)
  | @started hcall herr cacheCenter hfind hreach =>
    refine (hopened hcall cacheCenter).quiet (startRequest_trace ..) ?_ ?_ ?_
    · intro e he
      obtain ⟨hook, hm, rfl⟩ := List.mem_map.1 he
      rw [mem_hookIf hm]; exact ⟨rfl, rfl⟩
    · exact startRequest_reads _ _ _ _ _ (·.successBlock) (fun _ _ _ => rfl) m
    · exact startRequest_reads _ _ _ _ _ (·.failBlock) (fun _ _ _ => rfl) m
  | @unreachable hcall herr cacheCenter hfind hreach =>
    refine Stored.leave ?_ (failed_ended ..)
    obtain ⟨htrue, -⟩ | ⟨-, he⟩ := isReachable_cases c m' (w.lookedUp m' success fail cacheCenter)
    · simp [hreach] at htrue
    rw [he]
    exact (hopened hcall cacheCenter).fields m' (fun s => { s with errorType := .noNetWork }) rfl rfl
      fun _ => ⟨rfl, rfl⟩

/-- **One step.** A step that keeps the blocks of outstanding loads keeps the routing. -/
theorem Stored.step {w w' : World} {s : Step} (hw : Stored m w) (hc : Conserved w) (hk : Known w)
    (hkept : BlocksKept m w s) (hs : w.step s = some w') : Stored m w' := by
  obtain ⟨c, ev⟩ := s
  cases act_of_step hs with
  | @load ev m' params success fail w₀ _ hev hcase =>
    cases hev with
    | plain m' => exact hcase.stored hw fun hm hcall => hkept hm hcall
    | withBlocks m' params success fail =>
      -- the blocks are stored whether or not the call is let through
      refine hcase.stored ⟨fun k success' fail' h ho => ?_, hw.success, hw.failed⟩ ?_
      · by_cases hm : m' = m
        · obtain ⟨rfl, rfl⟩ := hkept hm k success' fail' h ho
          subst hm
          rw [modifyManager_managers, Function.update_self]
          exact ⟨rfl, rfl⟩
        · rw [modifyManager_managers, Function.update_of_ne (Ne.symm hm)]
          exact hw.held k success' fail' h ho
      · rintro rfl -
        rw [modifyManager_managers, Function.update_self]
        exact ⟨rfl, rfl⟩
  | finish => exact hw.same rfl rfl rfl
  | finishIdle => exact hw
  | @completion t handler responseObject error rest w' hq hcase =>
    obtain ⟨x, hx, rfl⟩ := hcase.ended
    have hpop : Stored m (w.popped t rest) := hw.same rfl rfl rfl
    exact hpop.leave hx
  | @success m' k response rest hq =>
    refine hw.notified hc hk hq rfl rfl fun hook hm => ?_
    obtain rfl := List.mem_singleton.1 hm
    exact ⟨rfl, fun _ _ h => (Hook.didSuccess.inj h).2.symm, fun _ _ h => by simp at h⟩
  | @failed m' k response rest hq =>
    refine hw.notified hc hk hq rfl rfl fun hook hm => ?_
    obtain ⟨h1, h2, h3⟩ := mem_failHooks hm
    exact ⟨h1, fun _ _ h => absurd h (h2 _ _), h3⟩
  | runIdle => exact hw
  | cancelAll m' =>
    exact hw.fields m' (fun s => { s with requestIdList := [] }) rfl rfl fun _ => ⟨rfl, rfl⟩
  | cancel m' requestID =>
    exact hw.fields m' (fun s => { s with
      requestIdList := removeRequestIdWithRequestID requestID s.requestIdList }) rfl rfl
      fun _ => ⟨rfl, rfl⟩
  | touch h =>
    cases h with
    | cleanData m' =>
      exact hw.fields m' (fun s => { s with fetchedRawData := none, errorType := .default }) rfl rfl
        fun _ => ⟨rfl, rfl⟩
    | isReachable m' =>
      rcases isReachable_cases c m' w with ⟨-, he⟩ | ⟨-, he⟩ <;> rw [he]
      · exact hw
      · exact hw.fields m' (fun s => { s with errorType := .noNetWork }) rfl rfl fun _ => ⟨rfl, rfl⟩
    | isLoading m' =>
      exact hw.fields m' (fun s => { s with isLoading := s.getIsLoading }) rfl rfl
        fun _ => ⟨rfl, rfl⟩
  | clean h => exact hw.same rfl rfl rfl

/-- **In a run that keeps the blocks of outstanding loads of manager `m`, every notification
of `m` invokes the block of its load**, and no block more often than it was passed. -/
theorem routed_of_kept {cacheCenter : RCCacheCenter} {h : List (World × Step)} {w : World}
    (hr : Run step (launch cacheCenter) h w) (hc : ∀ q ∈ h, BlocksKept m q.1 q.2) :
    (∀ q ∈ h, Routed m q.1) ∧ Routed m w := by
  have hstored : ∀ {h w}, Run step (launch cacheCenter) h w → (∀ q ∈ h, BlocksKept m q.1 q.2) →
      Stored m w := by
    intro h w hr
    induction hr with
    | nil => intro _; exact ⟨by simp [launch], by simp [launch], by simp [launch]⟩
    | snoc hr hs ih =>
      -- the step lemma needs what every run keeps, so the induction is on the run itself
      intro hc
      exact (ih fun q hq => hc q (List.mem_append_left _ hq)).step (conserved hr) (known hr)
        (hc _ (List.mem_append_right _ (List.mem_singleton_self _))) hs
  refine ⟨fun q hq => ?_, (hstored hr hc).routed (conserved hr)⟩
  obtain ⟨h₁, h₂, rfl, hr₁⟩ := hr.prefix_of_mem hq
  exact (hstored hr₁ fun q hq => hc q (List.mem_append_left _ hq)).routed (conserved hr₁)

end World

namespace World

/-- Two loads that overlap, with the same blocks: each block is invoked for each of them. -/
theorem routed_two_loads :
    ∃ h w, Run step init h w ∧ w.outcomes 0 = 1 ∧ w.outcomes 1 = 1 ∧ w.invocations 0 7 = 2 ∧
      (∀ q ∈ h, Routed 0 q.1) ∧ Routed 0 w := by
  have hr : Run step (launch .init) _ _ := run_of_exec
    [⟨.plain .noCache, .loadDataWithBlocks 0 none (some 7) (some 8)⟩,
      ⟨.plain .noCache, .loadDataWithBlocks 0 none (some 7) (some 8)⟩,
      ⟨.plain .noCache, .finish 0 (some (.object .empty)) none⟩,
      ⟨.plain .noCache, .finish 1 (some (.object .empty)) none⟩,
      ⟨.plain .noCache, .runMain⟩, ⟨.plain .noCache, .runMain⟩,
      ⟨.plain .noCache, .runMain⟩, ⟨.plain .noCache, .runMain⟩] rfl
  refine ⟨_, _, hr, rfl, rfl, rfl, routed_of_kept hr ?_⟩
  refine forall_visited_cons ?_ rfl <| forall_visited_cons ?_ rfl <|
    forall_visited_cons trivial rfl <| forall_visited_cons trivial rfl <|
    forall_visited_cons trivial rfl <| forall_visited_cons trivial rfl <|
    forall_visited_cons trivial rfl <| forall_visited_cons trivial rfl forall_visited_nil
  · exact fun _ k success fail h => absurd h List.not_mem_nil
  · intro _ k success fail h _
    have hcalled := congrArg (·.2.2) (List.mem_singleton.1 h)
    obtain ⟨rfl, rfl⟩ := Hook.called.inj hcalled
    exact ⟨rfl, rfl⟩

/-- **A block invoked twice.** It was passed with the first load; the second load was called
without blocks, and its success invokes the same block again. -/
theorem invoked_twice :
    ∃ w, exec step init
        [⟨.plain .noCache, .loadDataWithBlocks 0 none (some 7) (some 8)⟩,
          ⟨.plain .noCache, .finish 0 (some (.object .empty)) none⟩,
          ⟨.plain .noCache, .runMain⟩, ⟨.plain .noCache, .runMain⟩,
          ⟨.plain .noCache, .loadData 0⟩,
          ⟨.plain .noCache, .finish 1 (some (.object .empty)) none⟩,
          ⟨.plain .noCache, .runMain⟩, ⟨.plain .noCache, .runMain⟩] = some w ∧
      w.trace = [(0, 0, .called (some 7) (some 8)), (0, 0, .didSuccess true (some 7)),
        (0, 1, .called none none), (0, 1, .didSuccess true (some 7))] ∧
      ¬ Routed 0 w := by
  refine ⟨_, rfl, rfl, fun h => ?_⟩
  exact absurd (h.once 7) (by decide)

end World

end RCSdk
