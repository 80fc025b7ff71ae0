import RCSdk.Proof.Conservation

/-!
# What a notification finds in its manager

A completion writes its result into the fields of the manager; the notification reads them
when its block runs. In between, another ending of the same manager overwrites them.

* `delivers_of_undisturbed`: if no step of a run overwrites what a waiting notification will
  read, every notification finds the result of its own load.
* `overtaken`: two loads complete before the first notification runs, and the first load
  is reported with the data of the second.
-/

namespace RCSdk

open Trans

/-- The manager a notification is for. -/
def MainBlock.notified : MainBlock → Option ManagerId
  | .completion _ _ _ _ => none
  | .success m _ _ => some m
  | .failed m _ _ => some m

def MainBlock.isSuccess : MainBlock → Bool
  | .success _ _ _ => true
  | _ => false

/-- No notification of manager `m` waits. -/
def NoneWaiting (m : ManagerId) (queue : List MainBlock) : Prop :=
  ∀ b ∈ queue, b.notified ≠ some m

/-- No success notification of manager `m` waits. -/
def NoSuccessWaiting (m : ManagerId) (queue : List MainBlock) : Prop :=
  ∀ b ∈ queue, b.notified = some m → b.isSuccess = false

section Finds

variable [Foundation] {held : LoadId → Option RCURLResponse}

/-- The notification finds the result of its load in the manager. A load that failed without
a response finds the one its manager held when it was called: the field is never cleared. -/
def MainBlock.Finds (held : LoadId → Option RCURLResponse) (s : RCAPIBaseManager) : MainBlock → Prop
  | .completion _ _ _ _ => True
  | .success _ _ response => s.response = some response ∧ s.fetchedRawData = rawDataOf response ∧
      s.errorType = .success
  | .failed _ k response => s.response = response.or (held k)

theorem MainBlock.Finds.congr {s s' : RCAPIBaseManager} {b : MainBlock} (h : b.Finds held s)
    (hr : s'.response = s.response) (hd : s'.fetchedRawData = s.fetchedRawData)
    (he : s'.errorType = s.errorType) : b.Finds held s' := by
  cases b with
  | completion => trivial
  | success m k response => exact ⟨hr.trans h.1, hd.trans h.2.1, he.trans h.2.2⟩
  | failed m k response => exact hr.trans h

/-- A failure notification does not read what a success one reads besides. -/
theorem MainBlock.Finds.failed {s s' : RCAPIBaseManager} {b : MainBlock} (h : b.Finds held s)
    (hb : b.isSuccess = false) (hr : s'.response = s.response) : b.Finds held s' := by
  cases b with
  | completion => trivial
  | success m k response => simp [isSuccess] at hb
  | failed m k response => exact hr.trans h

omit [Foundation] in
theorem Ended.notified {m : ManagerId} {k : LoadId} {response : Option RCURLResponse} {x x' : Effects}
    (h : Ended m k response x x') (hx : x.blocks = []) : ∀ b ∈ x'.blocks, b.notified = some m := by
  obtain ⟨blocks, -, hb, -, hmem, -, -⟩ := h.mark
  intro b hbm
  rw [hb, hx, List.nil_append] at hbm
  obtain rfl | ⟨r, -, rfl⟩ := hmem b hbm <;> rfl

/-- What a failure queues finds its result. -/
theorem failed_finds {c : Context} {m : ManagerId} {k : LoadId} {response : Option RCURLResponse}
    {errorType : RCAPIManagerErrorType} {x : Effects} (hx : x.blocks = [])
    (hr : response = none → x.self.response = held k) :
    ∀ b ∈ (failedOnCallingAPI c m k response errorType x).blocks,
      b.Finds held (failedOnCallingAPI c m k response errorType x).self := by
  intro b hb
  rw [failed_blocks, hx, List.nil_append] at hb
  split at hb
  · obtain rfl := List.mem_singleton.1 hb
    rw [failed_self]
    cases response with
    | none => exact hr rfl
    | some r => rfl
  · simp at hb

/-- **What a success queues finds its result.** -/
theorem successed_finds {c : Context} {m : ManagerId} {k : LoadId} {response : RCURLResponse}
    {x x' : Effects} (h : successedOnCallingAPI c m k response x = some x') (hx : x.blocks = []) :
    ∀ b ∈ x'.blocks, b.Finds held x'.self := by
  obtain ⟨rawData, hraw, ⟨-, cacheCenter, -, rfl⟩ | ⟨-, rfl⟩⟩ := successed_cases h
  · intro b hb
    rw [performSuccess_blocks] at hb
    simp only [Effects.receive, hx, List.nil_append] at hb
    split at hb
    · obtain rfl := List.mem_singleton.1 hb
      rw [performSuccess_self]
      exact ⟨rfl, hraw.symm, rfl⟩
    · simp at hb
  · exact failed_finds hx (by simp)

end Finds

namespace World

variable [Foundation] {m : ManagerId} {held : LoadId → Option RCURLResponse}

/-- The response manager `m` held when load `k` of a run with this history was called. -/
def heldAtCall (m : ManagerId) (h : List (World × Step)) (k : LoadId) : Option RCURLResponse :=
  (h.find? fun q => q.1.loads == k && q.2.loadCall.isSome).bind fun q => (q.1.managers m).response

/-- **What every waiting notification of manager `m` will read is there.** -/
def Waiting (held : LoadId → Option RCURLResponse) (m : ManagerId) (w : World) : Prop :=
  ∀ b ∈ w.mainQueue, b.notified = some m → b.Finds held (w.managers m)

/-- **The contract of a notification of manager `m`**: the one that runs next finds the
result of its load, and of each load nothing is lost and nothing delivered twice. -/
structure Delivers (held : LoadId → Option RCURLResponse) (m : ManagerId) (w : World) : Prop where
  success : ∀ k response rest, w.mainQueue = .success m k response :: rest →
    (w.managers m).response = some response ∧ (w.managers m).fetchedRawData = rawDataOf response ∧
      (w.managers m).errorType = .success
  failed : ∀ k response rest, w.mainQueue = .failed m k response :: rest →
    (w.managers m).response = response.or (held k)
  once : ∀ k, w.outcomes k ≤ 1
  kept : ∀ k, w.proxy.running k + w.queued k + w.outcomes k = w.calls k

/-- A load call that ends with a cached response finds no notification of its manager
waiting; one that fails at once finds no success notification waiting. -/
structure LoadUndisturbed (c : Context) (m : ManagerId) (params : NSDictionary) (w : World) : Prop where
  answered : ∀ response, answerOf c params w.cacheCenter = some response → NoneWaiting m w.mainQueue
  failed : ∀ errorType, failureOf c params w.cacheCenter = some errorType →
    NoSuccessWaiting m w.mainQueue

/-- **The condition on a step**: it overwrites nothing that a waiting notification of
manager `m` will read. -/
def Undisturbed (m : ManagerId) (w : World) (s : Step) : Prop :=
  (∀ params, s.loadCall = some (m, params) → LoadUndisturbed s.context m params w) ∧
  match s.event with
  | .runMain => ∀ t handler responseObject error rest,
      w.mainQueue = .completion t handler responseObject error :: rest → handler.manager = m →
      NoneWaiting m rest
  | .cleanData m' => m' = m → NoSuccessWaiting m w.mainQueue
  | .isReachable m' => m' = m → s.context.isReachable = false → NoSuccessWaiting m w.mainQueue
  | _ => True

/-- A step that takes blocks off the queue at most, and keeps what notifications read. -/
theorem Waiting.mono {w w' : World} (hw : Waiting held m w) (hq : ∀ b ∈ w'.mainQueue, b ∈ w.mainQueue)
    (hr : (w'.managers m).response = (w.managers m).response)
    (hd : (w'.managers m).fetchedRawData = (w.managers m).fetchedRawData)
    (he : (w'.managers m).errorType = (w.managers m).errorType) : Waiting held m w' :=
  fun b hb hn => (hw b (hq b hb) hn).congr hr hd he

/-- A manager changes fields that no notification reads. -/
theorem Waiting.modify {w : World} (hw : Waiting held m w) {m' : ManagerId}
    {f : RCAPIBaseManager → RCAPIBaseManager}
    (hf : ∀ s, (f s).response = s.response ∧ (f s).fetchedRawData = s.fetchedRawData ∧
      (f s).errorType = s.errorType) : Waiting held m (w.modifyManager m' f) :=
  hw.mono (fun _ hb => hb) (modifyManager_reads _ _ _ (·.response) (fun s => (hf s).1) m)
    (modifyManager_reads _ _ _ (·.fetchedRawData) (fun s => (hf s).2.1) m)
    (modifyManager_reads _ _ _ (·.errorType) (fun s => (hf s).2.2) m)

/-- A manager for which no success notification waits changes fields, not its response. -/
theorem Waiting.touch {w : World} (hw : Waiting held m w) {m' : ManagerId}
    {f : RCAPIBaseManager → RCAPIBaseManager} (hf : ∀ s, (f s).response = s.response)
    (hc : m' = m → NoSuccessWaiting m w.mainQueue) : Waiting held m (w.modifyManager m' f) := by
  intro b hb hn
  by_cases hm : m' = m
  · exact (hw b hb hn).failed (hc hm b hb hn) (modifyManager_reads _ _ _ (·.response) hf m)
  · rw [modifyManager_managers, Function.update_of_ne (Ne.symm hm)]
    exact hw b hb hn

/-- **An ending of manager `m'`**: what waits for `m` still finds its result, and so does
what the ending queues. -/
theorem waiting_leave {m' : ManagerId} {k : LoadId} {response : Option RCURLResponse} {w : World}
    {x : Effects} (hended : Ended m' k response (w.enter m') x)
    (hother : m' ≠ m → Waiting held m w)
    (hsame : m' = m → ∀ b ∈ w.mainQueue, b.notified = some m → b.Finds held x.self)
    (hnew : m' = m → ∀ b ∈ x.blocks, b.Finds held x.self) : Waiting held m (w.leave m' k x) := by
  intro b hb hn
  rw [leave_mainQueue, List.mem_append] at hb
  rw [leave_managers]
  by_cases hm : m' = m
  · subst hm
    rw [Function.update_self]
    exact hb.elim (fun hb => hsame rfl b hb hn) (hnew rfl b)
  · rw [Function.update_of_ne (Ne.symm hm)]
    rcases hb with hb | hb
    · exact hother hm b hb hn
    · exact absurd (Option.some.inj ((hended.notified rfl b hb).symm.trans hn)) hm

/-- A load call keeps what waits, and what it queues itself finds its result. -/
theorem LoadCase.waiting {c : Context} {m' : ManagerId} {params : NSDictionary}
    {success fail : Option Block} {w w' : World} (h : LoadCase c m' params success fail w w')
    (hw : Waiting held m w)
    (hheld : m' = m → held w.loads = (w.managers m).response)
    (hc : m' = m → LoadUndisturbed c m params w) : Waiting held m w' := by
  rcases h.inputs with ⟨-, -, rfl | ⟨cacheCenter, rfl⟩⟩ | ⟨cacheCenter, response, x, ha, -, hx, rfl⟩ |
    ⟨errorType, w₁, hf, hw₁, rfl⟩
  · exact hw
  · refine hw.mono (fun _ hb => hb) ?_ ?_ ?_
    · exact startRequest_reads _ _ _ _ _ (·.response) (fun _ _ _ => rfl) m
    · exact startRequest_reads _ _ _ _ _ (·.fetchedRawData) (fun _ _ _ => rfl) m
    · exact startRequest_reads _ _ _ _ _ (·.errorType) (fun _ _ _ => rfl) m
  · -- answered from a cache: nothing of `m` was waiting
    refine waiting_leave (successed_ended hx) (fun _ => hw) ?_ fun _ => successed_finds hx rfl
    intro hm b hb hn
    exact absurd hn ((hc hm).answered response ha b hb)
  · -- failed at once: the response stays, and only failures were waiting
    have hq : w₁.mainQueue = w.mainQueue := by obtain rfl | ⟨_, rfl⟩ := hw₁ <;> rfl
    have hother : m' ≠ m → w₁.managers m = w.managers m := by
      intro hm
      obtain rfl | ⟨_, rfl⟩ := hw₁
      · rfl
      · exact Function.update_of_ne (Ne.symm hm) ..
    have hresp : m' = m → (w₁.managers m).response = (w.managers m).response := by
      rintro rfl
      obtain rfl | ⟨_, rfl⟩ := hw₁
      · rfl
      · rw [modifyManager_managers, Function.update_self]; rfl
    refine waiting_leave (failed_ended ..) ?_ ?_ ?_
    · intro hm b hb hn
      rw [hother hm]
      exact hw b (hq ▸ hb) hn
    · intro hm b hb hn
      refine (hw b (hq ▸ hb) hn).failed ((hc hm).failed errorType hf b (hq ▸ hb) hn) ?_
      subst hm
      rw [failed_self]
      exact hresp rfl
    · intro hm
      subst hm
      exact failed_finds rfl fun _ => (hresp rfl).trans (hheld rfl).symm

/-- **One step.** A step that overwrites nothing keeps what waits. -/
theorem Waiting.step {w w' : World} {s : Step} (hw : Waiting held m w)
    (hheld : ∀ params, s.loadCall = some (m, params) → held w.loads = (w.managers m).response)
    (hc : Undisturbed m w s) (hs : w.step s = some w') : Waiting held m w' := by
  obtain ⟨c, ev⟩ := s
  obtain ⟨hload, hev'⟩ := hc
  cases act_of_step hs with
  | @load ev m' params success fail w₀ _ hev hcase =>
    have hl := hev.loadCall
    obtain ⟨successBlock, failBlock, rfl⟩ := hev.stored
    refine hcase.waiting (hw.modify fun _ => ⟨rfl, rfl, rfl⟩) ?_ ?_
    · rintro rfl
      rw [modifyManager_managers, Function.update_self]
      exact hheld params hl
    · rintro rfl
      obtain ⟨ha, hf⟩ := hload params hl
      exact ⟨ha, hf⟩
  | finish t responseObject error task htask hact =>
    intro b hb hn
    rcases List.mem_append.1 hb with hb | hb
    · exact hw b hb hn
    · rw [List.mem_singleton.1 hb] at hn; simp [MainBlock.notified] at hn
  | finishIdle => exact hw
  | @completion t handler responseObject error rest _ hq hcase =>
    have hrest : Waiting held m (w.popped t rest) :=
      hw.mono (tail_mem hq) rfl rfl rfl
    -- the condition leaves no notification of `m` behind the completion
    have hnone : handler.manager = m → ∀ s b, b ∈ (w.popped t rest).mainQueue → b.notified = some m →
        b.Finds held s := fun hm _ b hb hn => absurd hn (hev' t handler responseObject error rest hq hm b hb)
    cases hcase with
    | failed herr =>
      exact waiting_leave (failed_ended ..) (fun _ => hrest) (fun hm => hnone hm _)
        fun _ => failed_finds rfl (by simp)
    | succeeded herr hx =>
      exact waiting_leave (successed_ended hx) (fun _ => hrest) (fun hm => hnone hm _)
        fun _ => successed_finds hx rfl
  | success hq => exact hw.mono (tail_mem hq) rfl rfl rfl
  | failed hq => exact hw.mono (tail_mem hq) rfl rfl rfl
  | runIdle => exact hw
  | cancelAll m' =>
    exact hw.modify (f := fun s => { s with requestIdList := [] }) fun _ => ⟨rfl, rfl, rfl⟩
  | cancel m' requestID =>
    exact hw.modify (f := fun s => { s with
      requestIdList := removeRequestIdWithRequestID requestID s.requestIdList }) fun _ => ⟨rfl, rfl, rfl⟩
  | touch h =>
    cases h with
    | cleanData m' => exact hw.touch (fun _ => rfl) fun hm => hev' hm
    | isReachable m' =>
      rcases isReachable_cases c m' w with ⟨-, he⟩ | ⟨hreach, he⟩ <;> rw [he]
      · exact hw
      · exact hw.touch (fun _ => rfl) fun hm => hev' hm hreach
    | isLoading m' => exact hw.modify fun _ => ⟨rfl, rfl, rfl⟩
  | clean h => exact hw

/-- What waits finds its result, so what runs next does. -/
theorem Waiting.delivers {w : World} (hw : Waiting held m w) (hc : Conserved w) :
    Delivers held m w := by
  refine ⟨fun k response rest hq => ?_, fun k response rest hq => ?_, hc.settling.once, hc.balance⟩
  · exact hw (.success m k response) (head_mem hq) rfl
  · exact hw (.failed m k response) (head_mem hq) rfl

/-- The numbers of the load calls of a run are behind its counter. -/
theorem loads_lt {cacheCenter : RCCacheCenter} {h : List (World × Step)} {w : World}
    (hr : Run step (launch cacheCenter) h w) :
    ∀ q ∈ h, q.2.loadCall.isSome → q.1.loads < w.loads := by
  induction hr with
  | nil => simp
  | @snoc h w w' s _ hs ih =>
    obtain ⟨hle, hlt⟩ := loads_step hs
    intro q hq hl
    rcases List.mem_append.1 hq with hq | hq
    · exact (ih q hq hl).trans_le hle
    · obtain rfl := List.mem_singleton.1 hq
      exact hlt hl

/-- Each load number belongs to one load call of the run. -/
theorem loadCall_unique {cacheCenter : RCCacheCenter} {h : List (World × Step)} {w : World}
    (hr : Run step (launch cacheCenter) h w) : ∀ q ∈ h, ∀ q' ∈ h, q.2.loadCall.isSome →
      q'.2.loadCall.isSome → q.1.loads = q'.1.loads → q = q' := by
  induction hr with
  | nil => simp
  | @snoc h w w' s hr _ ih =>
    have hlt := loads_lt hr
    intro q hq q' hq' hl hl' heq
    simp only [List.mem_append, List.mem_singleton] at hq hq'
    rcases hq with hq | rfl <;> rcases hq' with hq' | rfl
    · exact ih q hq q' hq' hl hl' heq
    · exact absurd heq (Nat.ne_of_lt (hlt q hq hl))
    · exact absurd heq.symm (Nat.ne_of_lt (hlt q' hq' hl'))
    · rfl

theorem heldAtCall_eq {cacheCenter : RCCacheCenter} {h : List (World × Step)} {w : World}
    (hr : Run step (launch cacheCenter) h w) {q : World × Step} (hq : q ∈ h)
    (hl : q.2.loadCall.isSome) : heldAtCall m h q.1.loads = (q.1.managers m).response := by
  unfold heldAtCall
  cases hf : h.find? fun q' => q'.1.loads == q.1.loads && q'.2.loadCall.isSome with
  | none => exact absurd (List.find?_eq_none.1 hf q hq) (by simp [hl])
  | some q' =>
    obtain ⟨h1, h2⟩ : q'.1.loads = q.1.loads ∧ q'.2.loadCall.isSome := by
      simpa using List.find?_some hf
    -- the history has one call of this number
    obtain rfl := loadCall_unique hr q' (List.mem_of_find?_eq_some hf) q hq h2 hl h1
    rfl

/-- **In a run whose steps overwrite nothing that a waiting notification of manager `m` will
read, every notification of `m` finds the result of its load.** -/
theorem delivers_of_undisturbed {cacheCenter : RCCacheCenter} {h : List (World × Step)} {w : World}
    (hr : Run step (launch cacheCenter) h w) (hc : ∀ q ∈ h, Undisturbed m q.1 q.2) :
    (∀ q ∈ h, Delivers (heldAtCall m h) m q.1) ∧ Delivers (heldAtCall m h) m w := by
  have hheld : ∀ q ∈ h, ∀ params, q.2.loadCall = some (m, params) →
      heldAtCall m h q.1.loads = (q.1.managers m).response :=
    fun q hq params hl => heldAtCall_eq hr hq (by rw [hl]; rfl)
  have hend : ∀ {h₁ w₁}, Run step (launch cacheCenter) h₁ w₁ → (∀ q ∈ h₁, q ∈ h) →
      Delivers (heldAtCall m h) m w₁ := fun hr hsub =>
    (hr.invariant_of (P := Waiting (heldAtCall m h) m) (C := fun w s => (w, s) ∈ h)
      (fun b hb => by simp [launch] at hb)
      (fun _ _ _ hw hs hst => hw.step (hheld _ hs) (hc _ hs) hst) hsub).delivers (conserved hr)
  refine ⟨fun q hq => ?_, hend hr fun _ hq => hq⟩
  obtain ⟨h₁, h₂, rfl, hr₁⟩ := hr.prefix_of_mem hq
  exact hend hr₁ fun q hq => List.mem_append_left _ hq

end World

namespace World

/-- Two loads that overlap; the second completes behind the notification of the first. -/
theorem delivers_two_loads :
    ∃ h w, Run step init h w ∧ w.outcomes 0 = 1 ∧ w.outcomes 1 = 1 ∧
      (∀ q ∈ h, Delivers (heldAtCall 0 h) 0 q.1) ∧ Delivers (heldAtCall 0 h) 0 w := by
  have hr : Run step (launch .init) _ _ := run_of_exec
    [⟨.plain .noCache, .loadData 0⟩, ⟨.plain .noCache, .loadData 0⟩,
      ⟨.plain .noCache, .finish 0 (some (.object (.str "first"))) none⟩,
      ⟨.plain .noCache, .runMain⟩, ⟨.plain .noCache, .runMain⟩,
      ⟨.plain .noCache, .finish 1 (some (.object (.str "second"))) none⟩,
      ⟨.plain .noCache, .runMain⟩, ⟨.plain .noCache, .runMain⟩] rfl
  refine ⟨_, _, hr, rfl, rfl, delivers_of_undisturbed hr ?_⟩
  -- a load call that starts a task, an ending of a task, a completion, a notification
  have hload : ∀ (w : World) (params : NSDictionary) (s : Step), s = ⟨.plain .noCache, .loadData 0⟩ →
      s.loadCall = some (0, params) → LoadUndisturbed s.context 0 params w := by
    rintro w params _ rfl hp
    obtain rfl := (Prod.mk.inj (Option.some.inj hp)).2
    exact ⟨fun response h => absurd (show none = some response from h) (by simp),
      fun errorType h => absurd (show none = some errorType from h) (by simp)⟩
  have hcompletion : ∀ (w : World) (b : MainBlock), w.mainQueue = [b] →
      Undisturbed 0 w ⟨.plain .noCache, .runMain⟩ := by
    refine fun w b hb => ⟨fun params hp => by simp [Step.loadCall] at hp, ?_⟩
    intro t handler responseObject error rest hq _
    obtain rfl := (List.cons.inj (hb.symm.trans hq)).2
    exact fun b hb => absurd hb List.not_mem_nil
  refine forall_visited_cons ⟨fun params hp => hload _ params _ rfl hp, trivial⟩ rfl <|
    forall_visited_cons ⟨fun params hp => hload _ params _ rfl hp, trivial⟩ rfl <|
    forall_visited_cons ⟨fun params hp => by simp [Step.loadCall] at hp, trivial⟩ rfl <|
    forall_visited_cons (hcompletion _ _ rfl) rfl <|
    forall_visited_cons (hcompletion _ _ rfl) rfl <|
    forall_visited_cons ⟨fun params hp => by simp [Step.loadCall] at hp, trivial⟩ rfl <|
    forall_visited_cons (hcompletion _ _ rfl) rfl <|
    forall_visited_cons (hcompletion _ _ rfl) rfl forall_visited_nil

/-- **One load's data under another's notification.** Both completions run before the first
notification, which then finds the second response. -/
theorem overtaken :
    ∃ w response response', exec step init
        [⟨.plain .noCache, .loadData 0⟩, ⟨.plain .noCache, .loadData 0⟩,
          ⟨.plain .noCache, .finish 0 (some (.object (.str "first"))) none⟩,
          ⟨.plain .noCache, .finish 1 (some (.object (.str "second"))) none⟩,
          ⟨.plain .noCache, .runMain⟩, ⟨.plain .noCache, .runMain⟩] = some w ∧
      w.mainQueue = [.success 0 0 response, .success 0 1 response'] ∧
      response.content = some (.str "first") ∧
      (w.managers 0).response = some response' ∧ response'.content = some (.str "second") ∧
      ∀ held, ¬ Delivers held 0 w := by
  refine ⟨_, _, _, rfl, rfl, rfl, rfl, rfl, fun held h => ?_⟩
  have hr := congrArg (Option.map (·.requestId)) (h.success 0 _ _ rfl).1
  exact absurd hr (by decide)

end World

end RCSdk
