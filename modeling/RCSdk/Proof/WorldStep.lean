import RCSdk.Lib.Run
import RCSdk.Proof.Endings
import RCSdk.Spec.World

/-!
# What a step of the world can do

`act_of_step` says once what each event can do to the world; every invariant is derived
from it by cases. A load call is one of five (`LoadCase`), a completion handler one of two
(`CompletionCase`); `LoadCase.kinds` and `CompletionCase.ended` forget the details that
only some proofs need: a load call is ignored, ends at once, or starts a task; a completion
handler ends its load.
-/

namespace RCSdk

namespace World

variable [Foundation]

/-! ## Frames of the building blocks -/

section Frames

omit [Foundation]

variable (m : ManagerId) (k : LoadId) (x : Effects) (w : World) (f : RCAPIBaseManager → RCAPIBaseManager)
  (hooks : List Hook)

@[simp] theorem leave_proxy : (w.leave m k x).proxy = w.proxy := rfl
@[simp] theorem leave_cacheCenter : (w.leave m k x).cacheCenter = x.cacheCenter := rfl
@[simp] theorem leave_loads : (w.leave m k x).loads = w.loads := rfl
@[simp] theorem leave_mainQueue : (w.leave m k x).mainQueue = w.mainQueue ++ x.blocks := rfl
@[simp] theorem leave_trace :
    (w.leave m k x).trace = w.trace ++ x.trace.map fun hook => (m, k, hook) := rfl
@[simp] theorem leave_managers :
    (w.leave m k x).managers = Function.update w.managers m x.self := rfl

@[simp] theorem note_proxy : (w.note m k hooks).proxy = w.proxy := rfl
@[simp] theorem note_cacheCenter : (w.note m k hooks).cacheCenter = w.cacheCenter := rfl
@[simp] theorem note_loads : (w.note m k hooks).loads = w.loads := rfl
@[simp] theorem note_mainQueue : (w.note m k hooks).mainQueue = w.mainQueue := rfl
@[simp] theorem note_managers : (w.note m k hooks).managers = w.managers := rfl
@[simp] theorem note_trace :
    (w.note m k hooks).trace = w.trace ++ hooks.map fun hook => (m, k, hook) := rfl

@[simp] theorem modifyManager_proxy : (w.modifyManager m f).proxy = w.proxy := rfl
@[simp] theorem modifyManager_cacheCenter : (w.modifyManager m f).cacheCenter = w.cacheCenter := rfl
@[simp] theorem modifyManager_loads : (w.modifyManager m f).loads = w.loads := rfl
@[simp] theorem modifyManager_mainQueue : (w.modifyManager m f).mainQueue = w.mainQueue := rfl
@[simp] theorem modifyManager_trace : (w.modifyManager m f).trace = w.trace := rfl
@[simp] theorem modifyManager_managers :
    (w.modifyManager m f).managers = Function.update w.managers m (f (w.managers m)) := rfl

/-- A manager whose fields change leaves what `g` reads of all managers, if it does of its own. -/
theorem update_reads {β : Type*} {managers : ManagerId → RCAPIBaseManager} {m : ManagerId}
    {s : RCAPIBaseManager} (g : RCAPIBaseManager → β) (hg : g s = g (managers m)) (m' : ManagerId) :
    g (Function.update managers m s m') = g (managers m') := by
  by_cases h : m' = m
  · subst h; rw [Function.update_self, hg]
  · rw [Function.update_of_ne h]

/-- A change of a manager's other fields leaves what `g` reads. -/
theorem modifyManager_reads {β : Type*} (g : RCAPIBaseManager → β) (hg : ∀ s, g (f s) = g s)
    (m' : ManagerId) : g ((w.modifyManager m f).managers m') = g (w.managers m') :=
  update_reads g (hg _) m'

@[simp] theorem enter_self : (w.enter m).self = w.managers m := rfl
@[simp] theorem enter_cacheCenter : (w.enter m).cacheCenter = w.cacheCenter := rfl
@[simp] theorem enter_blocks : (w.enter m).blocks = [] := rfl
@[simp] theorem enter_trace : (w.enter m).trace = [] := rfl

end Frames

/-! ## Cache lookups -/

/-- The key of a request of the manager. -/
def keyFor (c : Context) (params : NSDictionary) : String :=
  keyWithServiceIdentifier c.serviceIdentifier c.methodName params

theorem fetchMemory_data {now : ℚ} {service method : String} {params : NSDictionary}
    {cacheCenter cacheCenter' : RCCacheCenter} {response : RCURLResponse}
    (h : cacheCenter.fetchMemoryCache now service method params = (cacheCenter', some response)) :
    ∃ data, response = RCURLResponse.initWithData data := by
  simp only [RCCacheCenter.fetchMemoryCache, RCMemoryCacheDataCenter.fetchCachedRecordWithKey,
    Prod.mk.injEq] at h
  split at h
  · split_ifs at h
    · simp at h
    · obtain ⟨data, -, hd⟩ := Option.map_eq_some_iff.1 h.2
      exact ⟨data, hd.symm⟩
  · simp at h

theorem fetchDisk_data {now : ℚ} {service method : String} {params : NSDictionary}
    {cacheCenter cacheCenter' : RCCacheCenter} {response : RCURLResponse}
    (h : cacheCenter.fetchDiskCache now service method params = some (cacheCenter', some response)) :
    ∃ data, response = RCURLResponse.initWithData data := by
  obtain ⟨⟨d, r⟩, hd, hr⟩ := Option.map_eq_some_iff.1 h
  obtain rfl := (Prod.mk.injEq .. ▸ hr).2
  unfold RCDiskCacheCenter.fetchCachedRecordWithKey at hd
  split at hd
  · dsimp only at hd
    split_ifs at hd
    · obtain ⟨data, -, hd⟩ := Option.map_eq_some_iff.1 hd
      simp only [Prod.mk.injEq, Option.some.injEq] at hd
      exact ⟨data, hd.2.symm⟩
    · simp at hd
  · simp at hd

/-! ## Load calls -/

/-- The world in which load `w.loads` of manager `m` has been let through. -/
def opened (m : ManagerId) (success fail : Option Block) (w : World) : World :=
  { w with loads := w.loads + 1 }.note m w.loads [.called success fail]

/-- The same, after the cache lookup. -/
def lookedUp (m : ManagerId) (success fail : Option Block) (cacheCenter : RCCacheCenter)
    (w : World) : World :=
  { w.opened m success fail with cacheCenter }

/-- The parameters a load call goes on with. -/
def paramsOf (c : Context) (params : Option NSDictionary) : NSDictionary :=
  (c.reformedParams params).getD .empty

/-- The load call over these worlds. -/
theorem loadDataWithParams_eq (c : Context) (m : ManagerId) (params : Option NSDictionary)
    (success fail : Option Block) (w : World) :
    w.loadDataWithParams c m params success fail =
      if c.shouldCallAPIWithParams (paramsOf c params) then
        if c.isCorrectWithParamsData (paramsOf c params) = .noError then
          (cachedResponse c (paramsOf c params) w.cacheCenter).bind fun found =>
            let w₁ := w.lookedUp m success fail found.1
            match found.2 with
            | some response =>
              (successedOnCallingAPI c m w.loads response (w₁.enter m)).map fun x =>
                (w₁.leave m w.loads x, 0)
            | none =>
              let w₂ := (w₁.isReachable c m).2
              if c.isReachable then some (w₂.startRequest c m w.loads (paramsOf c params))
              else some (w₂.leave m w.loads
                (failedOnCallingAPI c m w.loads none .noNetWork (w₂.enter m)), 0)
        else some ((w.opened m success fail).leave m w.loads (failedOnCallingAPI c m w.loads none
          (c.isCorrectWithParamsData (paramsOf c params)) ((w.opened m success fail).enter m)), 0)
      else some ({ w with loads := w.loads + 1 }, 0) := rfl

/-- **The five ways of a load call.** -/
inductive LoadCase (c : Context) (m : ManagerId) (params : NSDictionary) (success fail : Option Block)
    (w : World) : World → Prop
  | notCalled (hcall : c.shouldCallAPIWithParams params = false) :
      LoadCase c m params success fail w { w with loads := w.loads + 1 }
  | rejected (hcall : c.shouldCallAPIWithParams params = true)
      (herr : c.isCorrectWithParamsData params ≠ .noError) :
      LoadCase c m params success fail w
        ((w.opened m success fail).leave m w.loads (failedOnCallingAPI c m w.loads none
          (c.isCorrectWithParamsData params) ((w.opened m success fail).enter m)))
  | cached (hcall : c.shouldCallAPIWithParams params = true)
      (herr : c.isCorrectWithParamsData params = .noError) {cacheCenter : RCCacheCenter}
      {response : RCURLResponse} {x : Effects}
      (hfind : cachedResponse c params w.cacheCenter = some (cacheCenter, some response))
      (hx : successedOnCallingAPI c m w.loads response
        ((w.lookedUp m success fail cacheCenter).enter m) = some x) :
      LoadCase c m params success fail w ((w.lookedUp m success fail cacheCenter).leave m w.loads x)
  | started (hcall : c.shouldCallAPIWithParams params = true)
      (herr : c.isCorrectWithParamsData params = .noError) {cacheCenter : RCCacheCenter}
      (hfind : cachedResponse c params w.cacheCenter = some (cacheCenter, none))
      (hreach : c.isReachable = true) :
      LoadCase c m params success fail w
        ((w.lookedUp m success fail cacheCenter).startRequest c m w.loads params).1
  | unreachable (hcall : c.shouldCallAPIWithParams params = true)
      (herr : c.isCorrectWithParamsData params = .noError) {cacheCenter : RCCacheCenter}
      (hfind : cachedResponse c params w.cacheCenter = some (cacheCenter, none))
      (hreach : c.isReachable = false) :
      LoadCase c m params success fail w
        (((w.lookedUp m success fail cacheCenter).isReachable c m).2.leave m w.loads
          (failedOnCallingAPI c m w.loads none .noNetWork
            (((w.lookedUp m success fail cacheCenter).isReachable c m).2.enter m)))

theorem loadCase_of_load {c : Context} {m : ManagerId} {params : Option NSDictionary}
    {success fail : Option Block} {w : World} {r : World × ℤ}
    (h : w.loadDataWithParams c m params success fail = some r) :
    LoadCase c m (paramsOf c params) success fail w r.1 := by
  rw [loadDataWithParams_eq] at h
  by_cases hcall : c.shouldCallAPIWithParams (paramsOf c params) = true
  · rw [if_pos hcall] at h
    by_cases herr : c.isCorrectWithParamsData (paramsOf c params) = .noError
    · rw [if_pos herr] at h
      obtain ⟨⟨cacheCenter, response⟩, hfind, h⟩ := Option.bind_eq_some_iff.1 h
      cases response with
      | some response =>
        obtain ⟨x, hx, rfl⟩ := Option.map_eq_some_iff.1 h
        exact .cached hcall herr hfind hx
      | none =>
        cases hreach : c.isReachable with
        | true =>
          obtain rfl := Option.some.inj ((if_pos hreach).symm.trans h)
          have hw₂ : ((w.lookedUp m success fail cacheCenter).isReachable c m).2 =
              w.lookedUp m success fail cacheCenter := by simp [isReachable, hreach]
          rw [hw₂]
          exact .started hcall herr hfind hreach
        | false =>
          obtain rfl := Option.some.inj ((if_neg (by simp [hreach])).symm.trans h)
          exact .unreachable hcall herr hfind hreach
    · rw [if_neg herr] at h
      obtain rfl := Option.some.inj h
      exact .rejected hcall herr
  · rw [if_neg hcall] at h
    obtain rfl := Option.some.inj h
    exact .notCalled (eq_false_of_ne_true hcall)

/-- The world an ending load call leaves its manager in: let through, with no field but
`errorType` changed yet. -/
structure Opened (m : ManagerId) (success fail : Option Block) (w w₁ : World) : Prop where
  proxy : w₁.proxy = w.proxy
  mainQueue : w₁.mainQueue = w.mainQueue
  loads : w₁.loads = w.loads + 1
  trace : w₁.trace = w.trace ++ [(m, w.loads, .called success fail)]
  managers : ∃ errorType, w₁.managers =
    Function.update w.managers m { w.managers m with errorType }

omit [Foundation] in
theorem opened_opened (m : ManagerId) (success fail : Option Block) (cacheCenter : RCCacheCenter)
    (w : World) : Opened m success fail w (w.lookedUp m success fail cacheCenter) :=
  ⟨rfl, rfl, rfl, rfl, (w.managers m).errorType, (Function.update_eq_self m w.managers).symm⟩

omit [Foundation] in
/-- The getter `isReachable` sets the error type when the network is down, and nothing else. -/
theorem isReachable_cases (c : Context) (m : ManagerId) (w : World) :
    c.isReachable = true ∧ (w.isReachable c m).2 = w ∨
      c.isReachable = false ∧ (w.isReachable c m).2 =
        w.modifyManager m fun s => { s with errorType := .noNetWork } := by
  unfold isReachable
  cases c.isReachable with
  | true => exact Or.inl ⟨rfl, rfl⟩
  | false => exact Or.inr ⟨rfl, rfl⟩

/-- The part of a lookup that asks the memory tier. -/
def memoryLookup (c : Context) (params : NSDictionary) (cacheCenter : RCCacheCenter) :
    RCCacheCenter × Option RCURLResponse :=
  if c.cachePolicy.has .memory ∧ c.shouldIgnoreCache = false then
    cacheCenter.fetchMemoryCache c.now c.serviceIdentifier c.methodName params
  else (cacheCenter, none)

/-- **A lookup**, by its two parts. -/
theorem cachedResponse_eq (c : Context) (params : NSDictionary) (cacheCenter : RCCacheCenter) :
    cachedResponse c params cacheCenter =
      if c.cachePolicy.has .disk ∧ c.shouldIgnoreCache = false then
        (memoryLookup c params cacheCenter).1.fetchDiskCache c.now c.serviceIdentifier c.methodName
          params
      else some (memoryLookup c params cacheCenter) := rfl

/-- The memory's part leaves the disk as it was. -/
@[simp] theorem memoryLookup_diskCacheCenter (c : Context) (params : NSDictionary)
    (cacheCenter : RCCacheCenter) :
    (memoryLookup c params cacheCenter).1.diskCacheCenter = cacheCenter.diskCacheCenter := by
  unfold memoryLookup
  split_ifs <;> rfl

/-- A cached response is read from data. -/
theorem cachedResponse_data {c : Context} {params : NSDictionary}
    {cacheCenter cacheCenter' : RCCacheCenter} {response : RCURLResponse}
    (h : cachedResponse c params cacheCenter = some (cacheCenter', some response)) :
    ∃ data, response = RCURLResponse.initWithData data := by
  rw [cachedResponse_eq] at h
  split_ifs at h with hd
  · exact fetchDisk_data h
  · have h := Option.some.inj h
    unfold memoryLookup at h
    split_ifs at h with hm
    · exact fetchMemory_data h
    · cases h

/-- The cached response a load call is answered with, if it is. -/
def answerOf (c : Context) (params : NSDictionary) (cacheCenter : RCCacheCenter) :
    Option RCURLResponse :=
  if c.shouldCallAPIWithParams params then
    if c.isCorrectWithParamsData params = .noError then
      (cachedResponse c params cacheCenter).bind Prod.snd
    else none
  else none

/-- The error a load call fails with before it starts a task, if it does. -/
def failureOf (c : Context) (params : NSDictionary) (cacheCenter : RCCacheCenter) :
    Option RCAPIManagerErrorType :=
  if c.shouldCallAPIWithParams params then
    if c.isCorrectWithParamsData params = .noError then
      match (cachedResponse c params cacheCenter).map Prod.snd with
      | some none => if c.isReachable then none else some .noNetWork
      | _ => none
    else some (c.isCorrectWithParamsData params)
  else none

/-- **How the cases of a load call show in its inputs.** -/
theorem LoadCase.inputs {c : Context} {m : ManagerId} {params : NSDictionary}
    {success fail : Option Block} {w w' : World} (h : LoadCase c m params success fail w w') :
    (answerOf c params w.cacheCenter = none ∧ failureOf c params w.cacheCenter = none ∧
        (w' = { w with loads := w.loads + 1 } ∨ ∃ cacheCenter,
          w' = ((w.lookedUp m success fail cacheCenter).startRequest c m w.loads params).1)) ∨
      (∃ cacheCenter response x, answerOf c params w.cacheCenter = some response ∧
        (∃ data, response = .initWithData data) ∧
        successedOnCallingAPI c m w.loads response
          ((w.lookedUp m success fail cacheCenter).enter m) = some x ∧
        w' = (w.lookedUp m success fail cacheCenter).leave m w.loads x) ∨
      ∃ errorType w₁, failureOf c params w.cacheCenter = some errorType ∧
        (w₁ = w.opened m success fail ∨ ∃ cacheCenter,
          w₁ = (w.lookedUp m success fail cacheCenter).modifyManager m
            fun s => { s with errorType := .noNetWork }) ∧
        w' = w₁.leave m w.loads (failedOnCallingAPI c m w.loads none errorType (w₁.enter m)) := by
  cases h with
  | notCalled hcall => exact Or.inl ⟨by simp [answerOf, hcall], by simp [failureOf, hcall], Or.inl rfl⟩
  | rejected hcall herr =>
    exact Or.inr (Or.inr ⟨_, _, by simp [failureOf, hcall, herr], Or.inl rfl, rfl⟩)
  | @cached _ _ cacheCenter response x hfind hx =>
    rename_i hcall herr
    obtain ⟨data, rfl⟩ := cachedResponse_data hfind
    exact Or.inr (Or.inl
      ⟨cacheCenter, _, x, by simp [answerOf, hcall, herr, hfind], ⟨data, rfl⟩, hx, rfl⟩)
  | @started hcall herr cacheCenter hfind hreach =>
    exact Or.inl ⟨by simp [answerOf, hcall, herr, hfind],
      by simp [failureOf, hcall, herr, hfind, hreach], Or.inr ⟨cacheCenter, rfl⟩⟩
  | @unreachable hcall herr cacheCenter hfind hreach =>
    refine Or.inr (Or.inr ⟨.noNetWork, _, by simp [failureOf, hcall, herr, hfind, hreach],
      Or.inr ⟨cacheCenter, ?_⟩, rfl⟩)
    simp [isReachable, hreach]

/-- A load call that ends before it starts a task: answered from a cache, or failed. -/
def EndsAtOnce (c : Context) (params : NSDictionary) (cacheCenter : RCCacheCenter) : Prop :=
  answerOf c params cacheCenter ≠ none ∨ failureOf c params cacheCenter ≠ none

/-- **A load call ends at once, or it is ignored or starts a task.** -/
theorem LoadCase.ends {c : Context} {m : ManagerId} {params : NSDictionary}
    {success fail : Option Block} {w w' : World} (h : LoadCase c m params success fail w w') :
    (EndsAtOnce c params w.cacheCenter ∧ ∃ w₁ response x, Opened m success fail w w₁ ∧
        requestIdOf response = 0 ∧ Ended m w.loads response (w₁.enter m) x ∧
        w' = w₁.leave m w.loads x) ∨
      (¬ EndsAtOnce c params w.cacheCenter ∧ (w' = { w with loads := w.loads + 1 } ∨ ∃ cacheCenter,
        w' = ((w.lookedUp m success fail cacheCenter).startRequest c m w.loads params).1)) := by
  unfold EndsAtOnce
  rcases h.inputs with ⟨ha, hf, h⟩ | ⟨cacheCenter, response, x, ha, ⟨data, rfl⟩, hx, rfl⟩ |
    ⟨errorType, w₁, hf, hw₁, rfl⟩
  · exact Or.inr ⟨by simp [ha, hf], h⟩
  · exact Or.inl ⟨Or.inl (by simp [ha]), _, some _, x, opened_opened m success fail cacheCenter w, rfl,
      successed_ended hx, rfl⟩
  · -- whatever failed, the load left before it only its call and perhaps an error type
    refine Or.inl ⟨Or.inr (by simp [hf]), w₁, none, _, ?_, rfl, failed_ended .., rfl⟩
    obtain rfl | ⟨cacheCenter, rfl⟩ := hw₁
    · exact opened_opened m success fail w.cacheCenter w
    · exact ⟨rfl, rfl, rfl, rfl, .noNetWork, rfl⟩

/-- **A load call is ignored, ends at once, or starts a task.** -/
theorem LoadCase.kinds {c : Context} {m : ManagerId} {params : NSDictionary}
    {success fail : Option Block} {w w' : World} (h : LoadCase c m params success fail w w') :
    w' = { w with loads := w.loads + 1 } ∨
      (∃ w₁ response x, Opened m success fail w w₁ ∧ requestIdOf response = 0 ∧
        Ended m w.loads response (w₁.enter m) x ∧ w' = w₁.leave m w.loads x) ∨
      ∃ cacheCenter,
        w' = ((w.lookedUp m success fail cacheCenter).startRequest c m w.loads params).1 := by
  rcases h.ends with ⟨-, h⟩ | ⟨-, h | h⟩
  · exact Or.inr (Or.inl h)
  · exact Or.inl h
  · exact Or.inr (Or.inr h)

section Start

omit [Foundation]

variable (c : Context) (m : ManagerId) (k : LoadId) (params : NSDictionary) (w : World)

/-- The completion handler of the request a load starts. -/
def handlerOf : CompletionHandler := ⟨m, k, ⟨c.service, some params⟩⟩

@[simp] theorem startRequest_proxy : (w.startRequest c m k params).1.proxy =
    (w.proxy.callApiWithRequest (handlerOf c m k params)).2 := rfl
@[simp] theorem startRequest_cacheCenter :
    (w.startRequest c m k params).1.cacheCenter = w.cacheCenter := rfl
@[simp] theorem startRequest_mainQueue : (w.startRequest c m k params).1.mainQueue = w.mainQueue := rfl
@[simp] theorem startRequest_loads : (w.startRequest c m k params).1.loads = w.loads := rfl
@[simp] theorem startRequest_trace : (w.startRequest c m k params).1.trace = w.trace ++
    (Context.hookIf (·.afterCallingAPI) c.otherInterceptor .afterCallingAPI).map
      fun hook => (m, k, hook) := rfl

@[simp] theorem startRequest_managers : (w.startRequest c m k params).1.managers =
    Function.update w.managers m { w.managers m with
      isLoading := true
      requestIdList := (w.managers m).requestIdList ++
        [(w.proxy.callApiWithRequest (handlerOf c m k params)).1] } := by
  simp [startRequest, handlerOf]

/-- Starting a request leaves what `g` reads, if that is neither the flag nor the list. -/
theorem startRequest_reads {β : Type*} (g : RCAPIBaseManager → β)
    (hg : ∀ (s : RCAPIBaseManager) isLoading requestIdList,
      g { s with isLoading, requestIdList } = g s) (m' : ManagerId) :
    g ((w.startRequest c m k params).1.managers m') = g (w.managers m') := by
  rw [startRequest_managers]
  exact update_reads g (hg _ _ _) m'

end Start

/-! ## Completion handlers -/

/-- The response and the error a completion handler builds. -/
def responseFor (t : TaskRef) (handler : CompletionHandler) (responseObject : Option ResponseObject)
    (error : Option NSError) (w : World) : RCURLResponse :=
  RCURLResponse.initWithResponseString
    (handler.request.service.resultWithResponseObject responseObject error).1.responseString
    ((w.proxy.tasks[t]?.map (·.taskIdentifier)).getD 0) handler.request
    (handler.request.service.resultWithResponseObject responseObject error).1.responseObject
    (handler.request.service.resultWithResponseObject responseObject error).2

omit [Foundation] in
/-- The error a completion handler ends with: the one its service leaves. -/
def errorFor (handler : CompletionHandler) (responseObject : Option ResponseObject)
    (error : Option NSError) : Option NSError :=
  (handler.request.service.resultWithResponseObject responseObject error).2

omit [Foundation] in
/-- The world a completion handler ends its load in. -/
def popped (t : TaskRef) (rest : List MainBlock) (w : World) : World :=
  { w with proxy := w.proxy.complete t, mainQueue := rest }

/-- **The two ways of a completion handler.** -/
inductive CompletionCase (c : Context) (t : TaskRef) (handler : CompletionHandler)
    (responseObject : Option ResponseObject) (error : Option NSError) (rest : List MainBlock)
    (w : World) : World → Prop
  | failed {e : NSError} (herr : errorFor handler responseObject error = some e) :
      CompletionCase c t handler responseObject error rest w
        ((w.popped t rest).leave handler.manager handler.load
          (failedOnCallingAPI c handler.manager handler.load
            (some (w.responseFor t handler responseObject error))
            (errorTypeForStatus (w.responseFor t handler responseObject error).status)
            ((w.popped t rest).enter handler.manager)))
  | succeeded (herr : errorFor handler responseObject error = none) {x : Effects}
      (hx : successedOnCallingAPI c handler.manager handler.load
        (w.responseFor t handler responseObject error) ((w.popped t rest).enter handler.manager) =
          some x) :
      CompletionCase c t handler responseObject error rest w
        ((w.popped t rest).leave handler.manager handler.load x)

theorem completionCase_of_run {c : Context} {t : TaskRef} {handler : CompletionHandler}
    {responseObject : Option ResponseObject} {error : Option NSError} {rest : List MainBlock}
    {w w' : World}
    (h : completionHandler c t handler responseObject error { w with mainQueue := rest } = some w') :
    CompletionCase c t handler responseObject error rest w w' := by
  unfold completionHandler at h
  dsimp only at h
  split at h
  · rename_i e herr
    obtain rfl := Option.some.inj h
    exact .failed herr
  · rename_i herr
    obtain ⟨x, hx, rfl⟩ := Option.map_eq_some_iff.1 h
    exact .succeeded herr hx

/-- **A completion handler ends its load with the response it built.** -/
theorem CompletionCase.ended {c : Context} {t : TaskRef} {handler : CompletionHandler}
    {responseObject : Option ResponseObject} {error : Option NSError} {rest : List MainBlock}
    {w w' : World} (h : CompletionCase c t handler responseObject error rest w w') :
    ∃ x, Ended handler.manager handler.load (some (w.responseFor t handler responseObject error))
        ((w.popped t rest).enter handler.manager) x ∧
      w' = (w.popped t rest).leave handler.manager handler.load x := by
  cases h with
  | failed herr => exact ⟨_, failed_ended .., rfl⟩
  | succeeded herr hx => exact ⟨_, successed_ended hx, rfl⟩

/-! ## The main queue -/

omit [Foundation] in
theorem head_mem {w : World} {b : MainBlock} {rest : List MainBlock}
    (hq : w.mainQueue = b :: rest) : b ∈ w.mainQueue := by
  rw [hq]; exact List.mem_cons_self

omit [Foundation] in
theorem tail_mem {w : World} {b : MainBlock} {rest : List MainBlock}
    (hq : w.mainQueue = b :: rest) : ∀ b' ∈ rest, b' ∈ w.mainQueue := by
  intro b' hb'
  rw [hq]; exact List.mem_cons_of_mem _ hb'

/-! ## Notifications -/

/-- The hooks of a fail block. -/
def failHooks (c : Context) (response : Option RCURLResponse) (block : Option Block) : List Hook :=
  Context.hookIf (·.didReceiveResponse) c.interceptor .didReceiveResponse ++
    Context.hookIf (·.beforePerformFail.isSome) c.otherInterceptor .beforePerformFail ++
    [.didFailed (c.beforePerformFail response && c.hasDelegate) block] ++
    Context.hookIf (·.afterPerformFail) c.otherInterceptor .afterPerformFail

omit [Foundation] in
theorem notifyFailed_eq (c : Context) (m : ManagerId) (k : LoadId) (response : Option RCURLResponse)
    (w : World) :
    w.notifyFailed c m k response = w.note m k (failHooks c response (w.managers m).failBlock) := rfl

omit [Foundation] in
theorem eq_of_mem_failHooks {c : Context} {response : Option RCURLResponse} {block : Option Block}
    {hook : Hook} (h : hook ∈ failHooks c response block) :
    hook = .didReceiveResponse ∨ hook = .beforePerformFail ∨ hook = .afterPerformFail ∨
      hook = .didFailed (c.beforePerformFail response && c.hasDelegate) block := by
  simp only [failHooks, List.mem_append, List.mem_singleton] at h
  rcases h with ((h | h) | h) | h
  · exact Or.inl (mem_hookIf h)
  · exact Or.inr (Or.inl (mem_hookIf h))
  · exact Or.inr (Or.inr (Or.inr h))
  · exact Or.inr (Or.inr (Or.inl (mem_hookIf h)))

omit [Foundation] in
/-- Of the hooks of a fail block only `didFailed` is an outcome. -/
theorem failHooks_countP (c : Context) (response : Option RCURLResponse) (block : Option Block) :
    (failHooks c response block).countP Hook.isOutcome = 1 ∧
      (failHooks c response block).countP Hook.isCalled = 0 := by
  have h0 : ∀ p : Hook → Bool, p .didReceiveResponse = false → p .beforePerformFail = false →
      p .afterPerformFail = false → (failHooks c response block).countP p =
        [Hook.didFailed (c.beforePerformFail response && c.hasDelegate) block].countP p := by
    intro p h1 h2 h3
    rw [failHooks, List.countP_append, List.countP_append, List.countP_append, countP_hookIf h1,
      countP_hookIf h2, countP_hookIf h3, Nat.zero_add, Nat.add_zero]
  exact ⟨h0 _ rfl rfl rfl, h0 _ rfl rfl rfl⟩

/-! ## Every event -/

omit [Foundation] in
/-- The load calls: the manager, the parameters it goes on with, the blocks passed, and the
world in which the blocks have been stored. -/
inductive IsLoad (c : Context) (w : World) : Event → ManagerId → NSDictionary → Option Block →
    Option Block → World → Prop
  | plain (m : ManagerId) : IsLoad c w (.loadData m) m (paramsOf c c.paramsForApi) none none w
  | withBlocks (m : ManagerId) (params : Option NSDictionary) (success fail : Option Block) :
      IsLoad c w (.loadDataWithBlocks m params success fail) m (paramsOf c params) success fail
        (w.modifyManager m fun s => { s with successBlock := success, failBlock := fail })

omit [Foundation] in
/-- The manager and the parameters of a load call. -/
def Step.loadCall (s : Step) : Option (ManagerId × NSDictionary) :=
  match s.event with
  | .loadData m => some (m, paramsOf s.context s.context.paramsForApi)
  | .loadDataWithBlocks m params _ _ => some (m, paramsOf s.context params)
  | _ => none

omit [Foundation] in
theorem IsLoad.loadCall {c : Context} {w w₀ : World} {ev : Event} {m : ManagerId}
    {params : NSDictionary} {success fail : Option Block}
    (h : IsLoad c w ev m params success fail w₀) : (⟨c, ev⟩ : Step).loadCall = some (m, params) := by
  cases h <;> rfl

omit [Foundation] in
/-- The events that only change fields of a manager: readings and `cleanData`. -/
inductive IsTouch (c : Context) (w : World) : Event → World → Prop
  | cleanData (m : ManagerId) : IsTouch c w (.cleanData m) (w.cleanData m)
  | isReachable (m : ManagerId) : IsTouch c w (.isReachable m) (w.isReachable c m).2
  | isLoading (m : ManagerId) : IsTouch c w (.isLoading m) (w.readIsLoading m)

omit [Foundation] in
/-- Before it calls, a load call at most stores its blocks. -/
theorem IsLoad.stored {c : Context} {w w₀ : World} {ev : Event} {m : ManagerId}
    {params : NSDictionary} {success fail : Option Block}
    (h : IsLoad c w ev m params success fail w₀) : ∃ successBlock failBlock,
      w₀ = w.modifyManager m fun s => { s with successBlock, failBlock } := by
  cases h with
  | plain => exact ⟨(w.managers m).successBlock, (w.managers m).failBlock, by simp [modifyManager]⟩
  | withBlocks => exact ⟨success, fail, rfl⟩

omit [Foundation] in
theorem IsLoad.frame {c : Context} {w w₀ : World} {ev : Event} {m : ManagerId}
    {params : NSDictionary} {success fail : Option Block}
    (h : IsLoad c w ev m params success fail w₀) : ∃ managers, w₀ = { w with managers } := by
  obtain ⟨successBlock, failBlock, rfl⟩ := h.stored
  exact ⟨_, rfl⟩

omit [Foundation] in
theorem IsTouch.frame {c : Context} {w w' : World} {ev : Event} (h : IsTouch c w ev w') :
    ∃ managers, w' = { w with managers } := by
  cases h with
  | cleanData m => exact ⟨_, rfl⟩
  | isReachable m =>
    rcases isReachable_cases c m w with ⟨-, he⟩ | ⟨-, he⟩ <;> rw [he]
    · exact ⟨w.managers, rfl⟩
    · exact ⟨_, rfl⟩
  | isLoading m => exact ⟨_, rfl⟩

/-- The events that only change the caches. -/
inductive IsClean (w : World) : Event → RCCacheCenter → Prop
  | memory : IsClean w .cleanAllMemoryCache w.cacheCenter.cleanAllMemoryCache
  | disk : IsClean w .cleanAllDiskCache w.cacheCenter.cleanAllDiskCache
  | evict (key : String) : IsClean w (.evict key) (w.cacheCenter.evict key)

omit [Foundation] in
theorem IsTouch.loadCall {c : Context} {w w' : World} {ev : Event} (h : IsTouch c w ev w') :
    (⟨c, ev⟩ : Step).loadCall = none := by
  cases h <;> rfl

theorem IsClean.loadCall {c : Context} {w : World} {ev : Event} {cacheCenter : RCCacheCenter}
    (h : IsClean w ev cacheCenter) : (⟨c, ev⟩ : Step).loadCall = none := by
  cases h <;> rfl

/-- **What an event can do.** -/
inductive Act (c : Context) (w : World) : Event → World → Prop
  | load {ev : Event} {m : ManagerId} {params : NSDictionary} {success fail : Option Block}
      {w₀ w' : World} (hev : IsLoad c w ev m params success fail w₀)
      (hcase : LoadCase c m params success fail w₀ w') : Act c w ev w'
  | finish (t : TaskRef) (responseObject : Option ResponseObject) (error : Option NSError)
      (task : NSURLSessionDataTask) (htask : w.proxy.tasks[t]? = some task)
      (hact : task.isActive = true) :
      Act c w (.finish t responseObject error)
        { w with
          proxy := w.proxy.finish t
          mainQueue := w.mainQueue ++ [.completion t task.handler
            (outcomeOf task responseObject error).1 (outcomeOf task responseObject error).2] }
  | finishIdle (t : TaskRef) (responseObject : Option ResponseObject) (error : Option NSError) :
      Act c w (.finish t responseObject error) w
  | completion {t : TaskRef} {handler : CompletionHandler} {responseObject : Option ResponseObject}
      {error : Option NSError} {rest : List MainBlock} {w' : World}
      (hq : w.mainQueue = .completion t handler responseObject error :: rest)
      (hcase : CompletionCase c t handler responseObject error rest w w') : Act c w .runMain w'
  | success {m : ManagerId} {k : LoadId} {response : RCURLResponse} {rest : List MainBlock}
      (hq : w.mainQueue = .success m k response :: rest) :
      Act c w .runMain ({ w with mainQueue := rest }.notifySuccess c m k)
  | failed {m : ManagerId} {k : LoadId} {response : Option RCURLResponse} {rest : List MainBlock}
      (hq : w.mainQueue = .failed m k response :: rest) :
      Act c w .runMain ({ w with mainQueue := rest }.notifyFailed c m k response)
  | runIdle (hq : w.mainQueue = []) : Act c w .runMain w
  | cancelAll (m : ManagerId) : Act c w (.cancelAllRequests m) (w.cancelAllRequests m)
  | cancel (m : ManagerId) (requestID : ℤ) :
      Act c w (.cancelRequestWithRequestId m requestID) (w.cancelRequestWithRequestId m requestID)
  | touch {ev : Event} {w' : World} (h : IsTouch c w ev w') : Act c w ev w'
  | clean {ev : Event} {cacheCenter : RCCacheCenter} (h : IsClean w ev cacheCenter) :
      Act c w ev { w with cacheCenter }

theorem LoadCase.loads {c : Context} {m : ManagerId} {params : NSDictionary}
    {success fail : Option Block} {w w' : World} (h : LoadCase c m params success fail w w') :
    w'.loads = w.loads + 1 := by
  rcases h.kinds with rfl | ⟨w₁, response, x, ho, -, -, rfl⟩ | ⟨cacheCenter, rfl⟩
  · rfl
  · exact ho.loads
  · rfl

/-- **The inversion of a step.** -/
theorem act_of_step {w w' : World} {s : Step} (h : w.step s = some w') :
    Act s.context w s.event w' := by
  obtain ⟨c, ev⟩ := s
  cases ev with
  | loadData m =>
    obtain ⟨r, hr, rfl⟩ := Option.map_eq_some_iff.1 h
    exact .load (.plain m) (loadCase_of_load hr)
  | loadDataWithBlocks m params success fail =>
    obtain ⟨r, hr, rfl⟩ := Option.map_eq_some_iff.1 h
    exact .load (.withBlocks m params success fail) (loadCase_of_load hr)
  | finish t responseObject error =>
    obtain rfl := Option.some.inj h
    unfold World.finish
    split
    · rename_i task htask
      split
      · rename_i hact
        exact .finish t responseObject error task htask hact
      · exact .finishIdle t responseObject error
    · exact .finishIdle t responseObject error
  | runMain =>
    simp only [step] at h
    split at h
    · rename_i block rest hq
      cases block with
      | completion t handler responseObject error =>
        exact .completion hq (completionCase_of_run h)
      | success m k response => obtain rfl := Option.some.inj h; exact .success hq
      | failed m k response => obtain rfl := Option.some.inj h; exact .failed hq
    · rename_i hq
      obtain rfl := Option.some.inj h; exact .runIdle hq
  | cancelAllRequests m => obtain rfl := Option.some.inj h; exact .cancelAll m
  | cancelRequestWithRequestId m requestID => obtain rfl := Option.some.inj h; exact .cancel m requestID
  | cleanData m => obtain rfl := Option.some.inj h; exact .touch (.cleanData m)
  | isReachable m => obtain rfl := Option.some.inj h; exact .touch (.isReachable m)
  | isLoading m => obtain rfl := Option.some.inj h; exact .touch (.isLoading m)
  | cleanAllMemoryCache => obtain rfl := Option.some.inj h; exact .clean .memory
  | cleanAllDiskCache => obtain rfl := Option.some.inj h; exact .clean .disk
  | evict key => obtain rfl := Option.some.inj h; exact .clean (.evict key)

/-- Only load calls count, and each does. -/
theorem loads_step {w w' : World} {s : Step} (h : w.step s = some w') :
    w.loads ≤ w'.loads ∧ (s.loadCall.isSome → w.loads < w'.loads) := by
  obtain ⟨c, ev⟩ := s
  cases act_of_step h with
  | load hev hcase =>
    obtain ⟨managers, rfl⟩ := hev.frame
    rw [hcase.loads]
    exact ⟨Nat.le_succ _, fun _ => Nat.lt_succ_self _⟩
  | completion _ hcase =>
    obtain ⟨x, -, rfl⟩ := hcase.ended
    exact ⟨le_rfl, fun h => by simp [Step.loadCall] at h⟩
  | finish => exact ⟨le_rfl, fun h => by simp [Step.loadCall] at h⟩
  | finishIdle => exact ⟨le_rfl, fun h => by simp [Step.loadCall] at h⟩
  | success => exact ⟨le_rfl, fun h => by simp [Step.loadCall] at h⟩
  | failed => exact ⟨le_rfl, fun h => by simp [Step.loadCall] at h⟩
  | runIdle => exact ⟨le_rfl, fun h => by simp [Step.loadCall] at h⟩
  | cancelAll => exact ⟨le_rfl, fun h => by simp [Step.loadCall] at h⟩
  | cancel => exact ⟨le_rfl, fun h => by simp [Step.loadCall] at h⟩
  | touch ht =>
    have hl := ht.loadCall
    obtain ⟨managers, rfl⟩ := ht.frame
    exact ⟨le_rfl, fun h => by simp [hl] at h⟩
  | clean hc =>
    have hl := hc.loadCall (c := c)
    exact ⟨le_rfl, fun h => by simp [hl] at h⟩

end World

end RCSdk
