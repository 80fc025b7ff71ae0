import RCSdk.Lib.Tables
import RCSdk.Lib.Run
import RCSdk.Spec.ApiProxy

/-!
# What `dispatchTable` knows of the tasks

`dispatchTable` maps an id to the last task started under it. Ids are unique only inside
one session, so the table finds every live task by its id as long as no live task meets
another task of its id: neither a new one (`callApiWithRequest` overwrites the entry) nor
an old, cancelled one whose completion handler still has to run (it erases the entry).

* `table_sound` (every run): an entry always leads to a task of that id.
* `cancellable_iff`: every live task is found by its id, and cancelled alone by it,
  throughout a run exactly when every step keeps the ids of live tasks apart.
* `shared_id_lost`: two requests of a service without a session manager share id 1.
-/

namespace RCSdk

open Trans

/-! ## Tasks under the operations -/

namespace NSURLSessionDataTask

variable (t : NSURLSessionDataTask)

@[simp] theorem cancel_taskIdentifier : t.cancel.taskIdentifier = t.taskIdentifier := rfl
@[simp] theorem finish_taskIdentifier : t.finish.taskIdentifier = t.taskIdentifier := rfl
@[simp] theorem complete_taskIdentifier : t.complete.taskIdentifier = t.taskIdentifier := rfl
@[simp] theorem cancel_handler : t.cancel.handler = t.handler := rfl
@[simp] theorem finish_handler : t.finish.handler = t.handler := rfl
@[simp] theorem complete_handler : t.complete.handler = t.handler := rfl
@[simp] theorem cancel_cancelSent : t.cancel.cancelSent = true := rfl
@[simp] theorem cancel_isLive : t.cancel.isLive = false := by simp [isLive]
@[simp] theorem complete_isLive : t.complete.isLive = false := by simp [isLive, complete]

@[simp] theorem cancel_cancel : t.cancel.cancel = t.cancel := by
  unfold cancel
  cases t.state <;> rfl

@[simp] theorem finish_isLive : t.finish.isLive = t.isLive := by
  unfold isLive finish isActive
  cases t.state <;> simp

end NSURLSessionDataTask

namespace RCApiProxy

/-- The id the next task of a service will get. -/
def nextId (service : RCService) (p : RCApiProxy) : ℤ :=
  p.numbered (p.sessionManagerWithService service).1 + 1

theorem sessionManagerWithService_frame (service : RCService) (p : RCApiProxy) :
    (p.sessionManagerWithService service).2.tasks = p.tasks ∧
      (p.sessionManagerWithService service).2.dispatchTable = p.dispatchTable ∧
      (p.sessionManagerWithService service).2.numbered = p.numbered := by
  unfold sessionManagerWithService
  dsimp only
  split <;> exact ⟨rfl, rfl, rfl⟩

/-- **What starting a task does.** -/
theorem callApiWithRequest_spec (c : CompletionHandler) (p : RCApiProxy) :
    ∃ task : NSURLSessionDataTask,
      task.taskIdentifier = p.nextId c.request.service ∧ task.handler = c ∧
      task.state = .running ∧ task.cancelSent = false ∧
      (p.callApiWithRequest c).1 = task.taskIdentifier ∧
      (p.callApiWithRequest c).2.tasks = p.tasks ++ [task] ∧
      (p.callApiWithRequest c).2.dispatchTable =
        Function.update p.dispatchTable task.taskIdentifier (some p.tasks.length) ∧
      (p.callApiWithRequest c).2.numbered =
        Function.update p.numbered (p.sessionManagerWithService c.request.service).1
          task.taskIdentifier := by
  obtain ⟨h1, h2, h3⟩ := sessionManagerWithService_frame c.request.service p
  refine ⟨⟨(p.sessionManagerWithService c.request.service).1, _, c, .running, false⟩,
    rfl, rfl, rfl, rfl, ?_⟩
  simp only [callApiWithRequest, h1, h2, h3, and_self]

theorem cancelRequestWithRequestID_tasks (i : ℤ) (p : RCApiProxy) :
    (p.cancelRequestWithRequestID i).tasks =
      match p.dispatchTable i with
      | some t => p.tasks.modify t NSURLSessionDataTask.cancel
      | none => p.tasks := by
  unfold cancelRequestWithRequestID
  cases p.dispatchTable i <;> rfl

@[simp] theorem cancelRequestWithRequestID_dispatchTable (i : ℤ) (p : RCApiProxy) :
    (p.cancelRequestWithRequestID i).dispatchTable = Function.update p.dispatchTable i none := by
  unfold cancelRequestWithRequestID
  dsimp only
  split <;> rfl

/-- A task after a cancel: cancelled if the entry of the id led to it, else as it was. -/
theorem cancelRequestWithRequestID_getElem? {i : ℤ} {p : RCApiProxy} {t : TaskRef}
    {task : NSURLSessionDataTask} :
    (p.cancelRequestWithRequestID i).tasks[t]? = some task ↔
      ∃ a, p.tasks[t]? = some a ∧ task = if p.dispatchTable i = some t then a.cancel else a := by
  rw [cancelRequestWithRequestID_tasks]
  cases p.dispatchTable i with
  | none => simp [eq_comm]
  | some u => simp only [Tables.getElem?_modify_eq_some, Option.some.injEq]

/-- What one cancel keeps, a cancel of a list keeps. -/
theorem cancelRequestWithRequestIDList_keeps {P : RCApiProxy → Prop}
    (h : ∀ i p, P p → P (p.cancelRequestWithRequestID i)) {p : RCApiProxy} (hp : P p)
    (ids : List ℤ) : P (p.cancelRequestWithRequestIDList ids) :=
  List.foldlRecOn ids _ hp fun q hq i _ => h i q hq

/-- A task after a cancel of a list: cancelled if the entry of one of the ids led to it. -/
theorem cancelRequestWithRequestIDList_getElem? {ids : List ℤ} {p : RCApiProxy} {t : TaskRef}
    {task : NSURLSessionDataTask} :
    (p.cancelRequestWithRequestIDList ids).tasks[t]? = some task ↔
      ∃ a, p.tasks[t]? = some a ∧ ((∃ i ∈ ids, p.dispatchTable i = some t) ∧ task = a.cancel ∨
        (∀ i ∈ ids, p.dispatchTable i ≠ some t) ∧ task = a) := by
  unfold cancelRequestWithRequestIDList
  induction ids generalizing p with
  | nil => simp [eq_comm]
  | cons i ids ih =>
    rw [List.foldl_cons, ih]
    simp only [cancelRequestWithRequestID_getElem?, cancelRequestWithRequestID_dispatchTable,
      List.mem_cons, exists_eq_or_imp, forall_eq_or_imp]
    by_cases hi : p.dispatchTable i = some t
    · -- the first cancel found the task: another one changes nothing
      simp only [hi, if_true, true_or, ne_eq, not_true_eq_false, false_and, or_false, true_and]
      constructor
      · rintro ⟨_, ⟨a, ha, rfl⟩, ⟨-, rfl⟩ | ⟨-, rfl⟩⟩
        · exact ⟨a, ha, a.cancel_cancel⟩
        · exact ⟨a, ha, rfl⟩
      · rintro ⟨a, ha, rfl⟩
        refine ⟨a.cancel, ⟨a, ha, rfl⟩, ?_⟩
        rw [a.cancel_cancel, and_iff_left rfl, and_iff_left rfl]
        rcases Classical.em (∃ j ∈ ids, Function.update p.dispatchTable i none j = some t) with h | h
        · exact Or.inl h
        · exact Or.inr fun j hj he => h ⟨j, hj, he⟩
    · have hj : ∀ j, Function.update p.dispatchTable i none j = some t ↔
          p.dispatchTable j = some t := by
        intro j
        by_cases hij : j = i
        · subst hij; simp [hi]
        · rw [Function.update_of_ne hij]
      simp [hi, hj]

/-- A task after a completion handler. -/
theorem complete_getElem? {p : RCApiProxy} {t u : TaskRef} {task : NSURLSessionDataTask} :
    (p.complete t).tasks[u]? = some task ↔
      ∃ a, p.tasks[u]? = some a ∧ task = if t = u then a.complete else a := by
  unfold complete
  split
  · exact Tables.getElem?_modify_eq_some
  · rename_i hn
    refine ⟨fun h => ⟨task, h, ?_⟩, ?_⟩
    · split_ifs with htu
      · subst htu; rw [hn] at h; exact absurd h (by simp)
      · rfl
    · rintro ⟨a, ha, rfl⟩
      split_ifs with htu
      · subst htu; rw [hn] at ha; exact absurd ha (by simp)
      · exact ha

/-! ## The table is sound -/

/-- An entry leads to a task of that id, and ids are positive. -/
structure TableOK (p : RCApiProxy) : Prop where
  entry : ∀ i t, p.dispatchTable i = some t → ∃ task, p.tasks[t]? = some task ∧ task.taskIdentifier = i
  ids : ∀ task ∈ p.tasks, 1 ≤ task.taskIdentifier
  numbered : ∀ s, 0 ≤ p.numbered s

theorem init_ok : TableOK init :=
  ⟨fun _ _ h => by simp [init] at h, fun _ h => by simp [init] at h, fun _ => by simp [init]⟩

/-- Changing one task, but not its id, keeps the table sound. -/
theorem TableOK.modify {p : RCApiProxy} (hp : TableOK p) {f : NSURLSessionDataTask → NSURLSessionDataTask}
    (hf : ∀ a, (f a).taskIdentifier = a.taskIdentifier) (t : TaskRef) :
    TableOK { p with tasks := p.tasks.modify t f } := by
  refine ⟨?_, ?_, hp.numbered⟩
  · intro i u hu
    obtain ⟨task, h1, h2⟩ := hp.entry i u hu
    refine ⟨_, Tables.getElem?_modify_eq_some.2 ⟨task, h1, rfl⟩, ?_⟩
    split_ifs
    · rw [hf]; exact h2
    · exact h2
  · intro task hm
    obtain ⟨u, hu⟩ := List.getElem?_of_mem hm
    obtain ⟨a, ha, rfl⟩ := Tables.getElem?_modify_eq_some.1 hu
    have := hp.ids a (List.mem_of_getElem? ha)
    split_ifs
    · rw [hf]; exact this
    · exact this

/-- Erasing an entry keeps the table sound. -/
theorem TableOK.erase {p : RCApiProxy} (hp : TableOK p) (i : ℤ) :
    TableOK { p with dispatchTable := Function.update p.dispatchTable i none } := by
  refine ⟨?_, hp.ids, hp.numbered⟩
  intro j u hu
  by_cases hj : j = i
  · subst hj; simp at hu
  · simp only [Function.update_of_ne hj] at hu
    exact hp.entry j u hu

theorem TableOK.call {p : RCApiProxy} (hp : TableOK p) (c : CompletionHandler) :
    TableOK (p.callApiWithRequest c).2 := by
  obtain ⟨task, hid, -, -, -, -, ht, hd, hn⟩ := callApiWithRequest_spec c p
  have hpos : 1 ≤ task.taskIdentifier := by
    have := hp.numbered (p.sessionManagerWithService c.request.service).1
    rw [hid, nextId]; omega
  refine ⟨?_, ?_, ?_⟩
  · -- the new entry leads to the new task, the others where they led
    intro i t h
    rw [hd] at h
    rw [ht]
    by_cases hi : i = task.taskIdentifier
    · subst hi
      simp only [Function.update_self, Option.some.injEq] at h
      subst h; exact ⟨task, by simp, rfl⟩
    · rw [Function.update_of_ne hi] at h
      obtain ⟨a, ha, hai⟩ := hp.entry i t h
      exact ⟨a, Tables.getElem?_concat_eq_some.2 (Or.inl ha), hai⟩
  · intro a ha
    rw [ht, List.mem_append, List.mem_singleton] at ha
    rcases ha with ha | rfl
    · exact hp.ids a ha
    · exact hpos
  · intro s
    rw [hn]
    by_cases hs : s = (p.sessionManagerWithService c.request.service).1
    · subst hs; rw [Function.update_self]; omega
    · rw [Function.update_of_ne hs]; exact hp.numbered s

theorem TableOK.cancel {p : RCApiProxy} (hp : TableOK p) (i : ℤ) :
    TableOK (p.cancelRequestWithRequestID i) := by
  unfold cancelRequestWithRequestID
  dsimp only
  split
  · exact (hp.modify (f := NSURLSessionDataTask.cancel) (fun _ => rfl) _).erase i
  · exact hp.erase i

theorem TableOK.cancelList {p : RCApiProxy} (hp : TableOK p) (ids : List ℤ) :
    TableOK (p.cancelRequestWithRequestIDList ids) :=
  cancelRequestWithRequestIDList_keeps (fun i _ hp => hp.cancel i) hp ids

theorem TableOK.complete {p : RCApiProxy} (hp : TableOK p) (t : TaskRef) : TableOK (p.complete t) := by
  unfold RCApiProxy.complete
  split
  · exact (hp.modify (f := NSURLSessionDataTask.complete) (fun _ => rfl) t).erase _
  · exact hp

theorem TableOK.step {p p' : RCApiProxy} {ev : Event} (hp : TableOK p) (hs : p.step ev = some p') :
    TableOK p' := by
  cases ev with
  | callApiWithRequest c => obtain rfl := Option.some.inj hs; exact hp.call c
  | cancelRequestWithRequestID i => obtain rfl := Option.some.inj hs; exact hp.cancel i
  | cancelRequestWithRequestIDList ids => obtain rfl := Option.some.inj hs; exact hp.cancelList ids
  | finish t =>
    obtain rfl := Option.some.inj hs
    exact hp.modify (f := NSURLSessionDataTask.finish) (fun _ => rfl) t
  | complete t =>
    obtain rfl := Option.some.inj hs
    split_ifs
    · exact hp.complete t
    · exact hp

/-- **In every run the table is sound.** -/
theorem table_sound {h : List (RCApiProxy × Event)} {p : RCApiProxy} (hr : Run step init h p) :
    TableOK p :=
  hr.invariant init_ok fun _ _ _ hp hs => hp.step hs

/-! ## Live tasks and their ids -/

/-- `dispatchTable` maps the id of every live task to that task. -/
def Registered (p : RCApiProxy) : Prop :=
  ∀ (t : TaskRef) (task : NSURLSessionDataTask), p.tasks[t]? = some task → task.isLive →
    p.dispatchTable task.taskIdentifier = some t

/-- Every live task is found by its id, and a cancel of that id cancels it and nothing
else: every other task stays as it was, and if it is live, it is still found by its id. -/
structure Cancellable (p : RCApiProxy) : Prop where
  registered : Registered p
  alone : ∀ (t : TaskRef) (task : NSURLSessionDataTask), p.tasks[t]? = some task → task.isLive →
    (p.cancelRequestWithRequestID task.taskIdentifier).tasks[t]? = some task.cancel ∧
    ∀ u other, u ≠ t → p.tasks[u]? = some other →
      (p.cancelRequestWithRequestID task.taskIdentifier).tasks[u]? = some other ∧
      (other.isLive →
        (p.cancelRequestWithRequestID task.taskIdentifier).dispatchTable other.taskIdentifier =
          some u)

/-- The condition on a step: a new task's id is not the id of a live task, and when a
completion handler runs no other live task has its task's id. -/
def IdsApart (p : RCApiProxy) : Event → Prop
  | .callApiWithRequest c =>
    ∀ (t : TaskRef) (task : NSURLSessionDataTask), p.tasks[t]? = some task → task.isLive →
      task.taskIdentifier ≠ p.nextId c.request.service
  | .complete t =>
    ∀ task, p.tasks[t]? = some task → p.isFinished t →
      ∀ u other, u ≠ t → p.tasks[u]? = some other → other.isLive →
        other.taskIdentifier ≠ task.taskIdentifier
  | _ => True

/-- Live tasks found by their ids have different ids. -/
theorem Registered.inj {p : RCApiProxy} (hp : Registered p) {t u : TaskRef}
    {a b : NSURLSessionDataTask} (ha : p.tasks[t]? = some a) (hb : p.tasks[u]? = some b)
    (hal : a.isLive) (hbl : b.isLive) (h : a.taskIdentifier = b.taskIdentifier) : t = u := by
  have h1 := hp t a ha hal
  have h2 := hp u b hb hbl
  rw [h, h2] at h1
  exact (Option.some.inj h1).symm

theorem Registered.cancellable {p : RCApiProxy} (hp : Registered p) : Cancellable p := by
  refine ⟨hp, fun t task ht hl => ⟨?_, fun u other hne hu => ⟨?_, fun hol => ?_⟩⟩⟩
  · exact cancelRequestWithRequestID_getElem?.2 ⟨task, ht, by rw [if_pos (hp t task ht hl)]⟩
  · refine cancelRequestWithRequestID_getElem?.2 ⟨other, hu, ?_⟩
    rw [if_neg (by rw [hp t task ht hl]; simpa using hne.symm)]
  · have hids : other.taskIdentifier ≠ task.taskIdentifier := fun h => hne (hp.inj hu ht hol hl h)
    rw [cancelRequestWithRequestID_dispatchTable, Function.update_of_ne hids]
    exact hp u other hu hol

theorem Registered.cancel {p : RCApiProxy} (hp : Registered p) (i : ℤ) :
    Registered (p.cancelRequestWithRequestID i) := by
  intro t task ht hl
  obtain ⟨a, ha, rfl⟩ := cancelRequestWithRequestID_getElem?.1 ht
  split_ifs at hl ⊢ with hi
  · simp at hl
  · have hne : a.taskIdentifier ≠ i := by
      intro h; exact hi (h ▸ hp t a ha hl)
    rw [cancelRequestWithRequestID_dispatchTable, Function.update_of_ne hne]
    exact hp t a ha hl

theorem Registered.cancelList {p : RCApiProxy} (hp : Registered p) (ids : List ℤ) :
    Registered (p.cancelRequestWithRequestIDList ids) :=
  cancelRequestWithRequestIDList_keeps (fun i _ hp => hp.cancel i) hp ids

/-- Starting a task keeps every live task registered exactly when its id is no live task's. -/
theorem registered_call_iff {p : RCApiProxy} (hp : Registered p) (c : CompletionHandler) :
    Registered (p.callApiWithRequest c).2 ↔ IdsApart p (.callApiWithRequest c) := by
  obtain ⟨new, hid, -, hrun, hcs, -, ht, hd, -⟩ := callApiWithRequest_spec c p
  have hold : ∀ {t : TaskRef} {a : NSURLSessionDataTask}, p.tasks[t]? = some a →
      t < p.tasks.length := fun h => (List.getElem?_eq_some_iff.1 h).1
  constructor
  · -- a live task with the new id would have lost its entry
    intro hr t task htt hl heq
    have h1 := hr t task (by rw [ht]; exact Tables.getElem?_concat_eq_some.2 (Or.inl htt)) hl
    rw [hd, heq, ← hid, Function.update_self] at h1
    exact absurd (Option.some.inj h1) (Nat.ne_of_gt (hold htt))
  · intro hc t task htt hl
    rw [ht] at htt
    rcases Tables.getElem?_concat_eq_some.1 htt with htt | ⟨rfl, rfl⟩
    · rw [hd, hid, Function.update_of_ne (hc t task htt hl)]
      exact hp t task htt hl
    · simp [hd]

theorem isFinished_iff {p : RCApiProxy} {t : TaskRef} :
    p.isFinished t ↔ ∃ task, p.tasks[t]? = some task ∧ task.state = .finished := by
  unfold isFinished
  cases p.tasks[t]? <;> simp

/-- A completion handler keeps every live task registered exactly when no other live task
has its task's id. -/
theorem registered_complete_iff {p : RCApiProxy} (hp : Registered p) {t : TaskRef}
    (hf : p.isFinished t) : Registered (p.complete t) ↔ IdsApart p (.complete t) := by
  obtain ⟨task, htt, -⟩ := isFinished_iff.1 hf
  have hc : p.complete t = { p with
      dispatchTable := Function.update p.dispatchTable task.taskIdentifier none
      tasks := p.tasks.modify t NSURLSessionDataTask.complete } := by
    simp only [RCApiProxy.complete, htt]
  rw [hc]
  constructor
  · -- another live task with the id would have lost its entry
    intro hr task' ht' _ u other hne hu hl heq
    obtain rfl : task = task' := Option.some.inj (htt.symm.trans ht')
    have := hr u other (Tables.getElem?_modify_eq_some.2 ⟨other, hu, by rw [if_neg hne.symm]⟩) hl
    simp [heq] at this
  · intro hc u other hu hl
    obtain ⟨a, ha, rfl⟩ := Tables.getElem?_modify_eq_some.1 hu
    split_ifs at hl ⊢ with htu
    · simp at hl
    · have := hc task htt hf u a (Ne.symm htu) ha hl
      simp only [Function.update_of_ne this]
      exact hp u a ha hl

theorem Registered.finish {p : RCApiProxy} (hp : Registered p) (t : TaskRef) :
    Registered (p.finish t) := by
  intro u task hu hl
  obtain ⟨a, ha, rfl⟩ := Tables.getElem?_modify_eq_some.1 hu
  split_ifs at hl ⊢
  · exact hp u a ha (by simpa using hl)
  · exact hp u a ha hl

/-- **One step.** A step keeps every live task registered exactly when it keeps the ids apart. -/
theorem registered_step_iff {p p' : RCApiProxy} {ev : Event} (hp : Registered p)
    (hs : p.step ev = some p') : Registered p' ↔ IdsApart p ev := by
  cases ev with
  | callApiWithRequest c => obtain rfl := Option.some.inj hs; exact registered_call_iff hp c
  | cancelRequestWithRequestID i =>
    obtain rfl := Option.some.inj hs; exact iff_of_true (hp.cancel i) trivial
  | cancelRequestWithRequestIDList ids =>
    obtain rfl := Option.some.inj hs; exact iff_of_true (hp.cancelList ids) trivial
  | finish t => obtain rfl := Option.some.inj hs; exact iff_of_true (hp.finish t) trivial
  | complete t =>
    obtain rfl := Option.some.inj hs
    split_ifs with hf
    · exact registered_complete_iff hp hf
    · exact iff_of_true hp fun _ _ h => absurd h hf

/-- **The table serves every live task throughout a run exactly when every step of the run
keeps the ids of live tasks apart.** -/
theorem cancellable_iff {h : List (RCApiProxy × Event)} {p : RCApiProxy} (hr : Run step init h p) :
    ((∀ q ∈ h, Cancellable q.1) ∧ Cancellable p) ↔ ∀ q ∈ h, IdsApart q.1 q.2 := by
  have h0 : Cancellable init := Registered.cancellable fun t task ht => by simp [init] at ht
  refine hr.always_iff (I := fun _ => True) trivial h0 (fun _ _ _ _ _ => trivial) ?_
  intro s a t _ hs hst
  rw [← registered_step_iff hs.registered hst]
  exact ⟨fun hc => hc.registered, Registered.cancellable⟩

/-- A request of manager `m` to a service with or without a session manager. -/
def requestOf (m : ManagerId) (sessionManager : Option SessionManager) : Event :=
  .callApiWithRequest ⟨m, m, ⟨RCService.plain sessionManager, none⟩⟩

/-- Two requests through one session are told apart. -/
theorem cancellable_one_session :
    ∃ h p, Run step init h p ∧ p.tasks.length = 2 ∧ (∀ q ∈ h, Cancellable q.1) ∧ Cancellable p := by
  have hr : Run step init _ _ :=
    run_of_exec [requestOf 0 (some (.held 0)), requestOf 1 (some (.held 0))] rfl
  refine ⟨_, _, hr, rfl, (cancellable_iff hr).2 ?_⟩
  intro q hq
  obtain rfl | rfl : q = (init, requestOf 0 (some (.held 0))) ∨
      q = ((init.callApiWithRequest ⟨0, 0, ⟨RCService.plain (some (.held 0)), none⟩⟩).2,
        requestOf 1 (some (.held 0))) := by
    simpa [visited, step, requestOf] using hq
  · intro t task ht
    simp [init] at ht
  · intro t task ht _
    rcases t with _ | t
    · obtain rfl := Option.some.inj ht
      decide
    · simp [callApiWithRequest, sessionManagerWithService, RCService.plain, init] at ht

/-- **Two live tasks under one id.** Without a session manager each request gets a session
of its own, and each session numbers its first task 1: the second request takes the first
one's entry, and no id cancels the first any more. -/
theorem shared_id_lost :
    ∃ h p, Run step init h p ∧ (∃ task, p.tasks[0]? = some task ∧ task.isLive ∧
      p.dispatchTable task.taskIdentifier = some 1) ∧ ¬ Cancellable p := by
  have hr : Run step init _ _ := run_of_exec [requestOf 0 none, requestOf 1 none] rfl
  refine ⟨_, _, hr, ⟨_, rfl, rfl, by decide⟩, fun hc => ?_⟩
  exact absurd (hc.registered 0 _ rfl rfl) (by decide)

end RCApiProxy

end RCSdk
