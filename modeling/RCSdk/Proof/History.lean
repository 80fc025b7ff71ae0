import RCSdk.Proof.WorldStep

/-!
# What the readings of a callback depend on

A callback reads `errorType`, `errorMessage`, `response` and `fetchedRawData` from its
manager. An ending writes some of them and keeps the others.

* `finish_wrote`: what the ending of a load writes, by its result alone.
* `same_result_same_readings`: two loads that end with the same result leave the same
  values, as far as the result says them; what it does not say is kept from before.
* `response_kept`: a load without a response keeps the response of an earlier load.
-/

namespace RCSdk

open Trans

/-- How a load ended: its response, if it had one, and its error type. -/
structure LoadResult where
  response : Option RCURLResponse
  errorType : RCAPIManagerErrorType

/-- The response came through `successedOnCallingAPI:`. -/
def LoadResult.received (o : LoadResult) : Bool :=
  o.response.any fun response => decide (response.status = .success)

/-- The result of a response that came through `successedOnCallingAPI:`. -/
def LoadResult.ofAnswer (c : Context) (response : RCURLResponse) : LoadResult where
  response := some response
  errorType :=
    if c.isCorrectWithCallBackData response.content = .noError then .success
    else c.isCorrectWithCallBackData response.content

/-- A result that has a message of its own has it whatever stood there before. -/
theorem errorMessageFor_of_isSome {errorType : RCAPIManagerErrorType}
    (h : (errorMessageFor errorType none).isSome) (errorMessage : Option String) :
    errorMessageFor errorType errorMessage = errorMessageFor errorType none := by
  cases errorType <;> first | rfl | exact absurd h (by decide)

section Readings

variable [Foundation]

/-- **What an ending writes.** `s` are the fields before, `s'` after. -/
structure Wrote (c : Context) (o : LoadResult) (s s' : RCAPIBaseManager) : Prop where
  errorType : s'.errorType = o.errorType
  response : s'.response = o.response.or s.response
  fetchedRawData : s'.fetchedRawData =
    if o.received then o.response.bind rawDataOf else s.fetchedRawData
  errorMessage : c.notifies o.response o.errorType = true →
    (errorMessageFor o.errorType none).isSome → s'.errorMessage = errorMessageFor o.errorType none

theorem failed_wrote {c : Context} {m : ManagerId} {k : LoadId} {response : Option RCURLResponse}
    {errorType : RCAPIManagerErrorType} {x : Effects} {s : RCAPIBaseManager}
    (hs : ∀ r ∈ response, r.status ≠ .success) (hr : x.self.response = s.response)
    (hd : x.self.fetchedRawData = s.fetchedRawData) :
    Wrote c ⟨response, errorType⟩ s (failedOnCallingAPI c m k response errorType x).self := by
  have hrec : LoadResult.received ⟨response, errorType⟩ = false := by
    cases response with
    | none => rfl
    | some r => simpa [LoadResult.received] using hs r rfl
  rw [failed_self]
  refine ⟨rfl, by rw [← hr], by rw [hrec]; exact hd, fun hn hm => ?_⟩
  dsimp only at hn hm ⊢
  rw [if_pos hn]
  exact errorMessageFor_of_isSome hm _

theorem successed_wrote {c : Context} {m : ManagerId} {k : LoadId} {response : RCURLResponse}
    {x x' : Effects} {s : RCAPIBaseManager} (hs : response.status = .success)
    (h : successedOnCallingAPI c m k response x = some x') :
    Wrote c (.ofAnswer c response) s x'.self := by
  have hrec : (LoadResult.ofAnswer c response).received = true := by
    simp [LoadResult.received, LoadResult.ofAnswer, hs]
  obtain ⟨rawData, hraw, ⟨herr, cacheCenter, -, rfl⟩ | ⟨herr, rfl⟩⟩ := successed_cases h
  · rw [performSuccess_self]
    refine ⟨by simp [LoadResult.ofAnswer, herr], rfl, ?_, fun _ hm => ?_⟩
    · rw [if_pos hrec]; exact hraw.symm
    · simp only [LoadResult.ofAnswer, if_pos herr] at hm
      exact absurd hm (by decide)
  · rw [failed_self]
    refine ⟨by simp [LoadResult.ofAnswer, herr], rfl, ?_, fun hn hm => ?_⟩
    · rw [if_pos hrec]; exact hraw.symm
    · simp only [LoadResult.ofAnswer, if_neg herr] at hn hm ⊢
      rw [if_pos hn]
      exact errorMessageFor_of_isSome hm _

namespace World

variable {m : ManagerId}

/-- **The result with which a step ends a load of manager `m`**, if it ends one: a load call
answered from the cache or failing at once, or the completion of a task. -/
def resultOf (m : ManagerId) (w : World) (s : Step) : Option LoadResult :=
  match s.loadCall with
  | some (m', params) =>
    if m' = m then
      match answerOf s.context params w.cacheCenter with
      | some response => some (.ofAnswer s.context response)
      | none => (failureOf s.context params w.cacheCenter).map fun errorType => ⟨none, errorType⟩
    else none
  | none =>
    match s.event, w.mainQueue with
    | .runMain, .completion t handler responseObject error :: _ =>
      if handler.manager = m then
        let response := w.responseFor t handler responseObject error
        match errorFor handler responseObject error with
        | some _ => some ⟨some response, errorTypeForStatus response.status⟩
        | none => some (.ofAnswer s.context response)
      else none
    | _, _ => none

/-- The status of the response of a completion says whether it found an error. -/
theorem responseFor_status {t : TaskRef} {handler : CompletionHandler}
    {responseObject : Option ResponseObject} {error : Option NSError} {w : World} :
    (w.responseFor t handler responseObject error).status = .success ↔
      errorFor handler responseObject error = none :=
  responseStatusWithError_eq_success

/-- A load call answered from the cache does not fail. -/
theorem failureOf_of_answer {c : Context} {params : NSDictionary} {cacheCenter : RCCacheCenter}
    {response : RCURLResponse} (h : answerOf c params cacheCenter = some response) :
    failureOf c params cacheCenter = none := by
  unfold answerOf at h
  split_ifs at h with hcall herr
  obtain ⟨found, hfind, hr⟩ := Option.bind_eq_some_iff.1 h
  rw [failureOf, if_pos hcall, if_pos herr, hfind, Option.map_some, hr]

/-- **One step.** The ending of a load of manager `m` writes what its result says. -/
theorem finish_wrote {w w' : World} {s : Step} {o : LoadResult} (hs : w.step s = some w')
    (ho : resultOf m w s = some o) : Wrote s.context o (w.managers m) (w'.managers m) := by
  obtain ⟨c, ev⟩ := s
  cases act_of_step hs with
  | @load ev m' params success fail w₀ _ hev hcase =>
    have hl := hev.loadCall
    obtain ⟨successBlock, failBlock, rfl⟩ := hev.stored
    simp only [resultOf, hl] at ho
    split_ifs at ho with hm
    subst hm
    rcases hcase.inputs with ⟨ha, hf, -⟩ | ⟨cacheCenter, response, x, ha, ⟨data, rfl⟩, hx, rfl⟩ |
      ⟨errorType, w₁, hf, hw₁, rfl⟩
    · rw [modifyManager_cacheCenter] at ha hf
      simp [ha, hf] at ho
    · rw [modifyManager_cacheCenter] at ha
      rw [ha] at ho
      obtain rfl := Option.some.inj ho
      rw [leave_managers, Function.update_self]
      exact successed_wrote rfl hx
    · rw [modifyManager_cacheCenter] at hf
      -- the load failed, so no cached answer comes before the failure
      have ho : o = ⟨none, errorType⟩ := by
        cases ha : answerOf c params w.cacheCenter with
        | none => simpa [ha, hf, eq_comm] using ho
        | some response => exact absurd hf (by rw [failureOf_of_answer ha]; simp)
      subst ho
      rw [leave_managers, Function.update_self]
      refine failed_wrote (by simp) ?_ ?_ <;>
        obtain rfl | ⟨cacheCenter, rfl⟩ := hw₁ <;>
        simp [World.opened, lookedUp]
  | @completion t handler responseObject error rest _ hq hcase =>
    have hl : (⟨c, .runMain⟩ : Step).loadCall = none := rfl
    simp only [resultOf, hl, hq] at ho
    split_ifs at ho with hm
    subst hm
    -- the response's status tells the two ends of a completion apart
    cases hcase with
    | @failed e herr =>
      rw [herr] at ho
      obtain rfl := Option.some.inj ho
      rw [leave_managers, Function.update_self]
      refine failed_wrote ?_ rfl rfl
      intro r hr
      obtain rfl := Option.some.inj hr
      rw [Ne, responseFor_status, herr]
      simp
    | succeeded herr hx =>
      rw [herr] at ho
      obtain rfl := Option.some.inj ho
      rw [leave_managers, Function.update_self]
      exact successed_wrote (responseFor_status.2 herr) hx
  | touch ht => simp [resultOf, ht.loadCall] at ho; cases ht <;> simp at ho
  | clean hc => simp [resultOf, hc.loadCall] at ho; cases hc <;> simp at ho
  | finish => simp [resultOf, Step.loadCall] at ho
  | finishIdle => simp [resultOf, Step.loadCall] at ho
  | success hq => simp [resultOf, Step.loadCall, hq] at ho
  | failed hq => simp [resultOf, Step.loadCall, hq] at ho
  | runIdle hq => simp [resultOf, Step.loadCall, hq] at ho
  | cancelAll => simp [resultOf, Step.loadCall] at ho
  | cancel => simp [resultOf, Step.loadCall] at ho

/-- **What two endings with one result have in common.** `s` are the fields before the
ending and `s'` after, in either run. -/
structure SameReadings (o : LoadResult) (c₁ c₂ : Context) (s₁ s₁' s₂ s₂' : RCAPIBaseManager) :
    Prop where
  errorType : s₁'.errorType = o.errorType ∧ s₂'.errorType = o.errorType
  response : ∀ r, o.response = some r → s₁'.response = some r ∧ s₂'.response = some r
  fetchedRawData : o.received = true → s₁'.fetchedRawData = o.response.bind rawDataOf ∧
    s₂'.fetchedRawData = o.response.bind rawDataOf
  /-- A reported failure that has a message of its own has that message. -/
  errorMessage : (errorMessageFor o.errorType none).isSome →
    c₁.notifies o.response o.errorType = true → c₂.notifies o.response o.errorType = true →
    s₁'.errorMessage = errorMessageFor o.errorType none ∧
      s₂'.errorMessage = errorMessageFor o.errorType none
  /-- A load without a response keeps the one before. -/
  keptResponse : o.response = none → s₁'.response = s₁.response ∧ s₂'.response = s₂.response
  /-- A load that received no content keeps the one before, until `cleanData`. -/
  keptData : o.received = false → s₁'.fetchedRawData = s₁.fetchedRawData ∧
    s₂'.fetchedRawData = s₂.fetchedRawData

/-- **Two loads that end with the same result leave the same readings**, whatever the
managers did before, as far as the result says them. -/
theorem same_result_same_readings {m₁ m₂ : ManagerId} {cacheCenter₁ cacheCenter₂ : RCCacheCenter}
    {h₁ h₂ : List (World × Step)} {w₁ w₁' w₂ w₂' : World} {s₁ s₂ : Step} {o : LoadResult}
    (hr₁ : Run step (launch cacheCenter₁) (h₁ ++ [(w₁, s₁)]) w₁')
    (hr₂ : Run step (launch cacheCenter₂) (h₂ ++ [(w₂, s₂)]) w₂')
    (ho₁ : resultOf m₁ w₁ s₁ = some o) (ho₂ : resultOf m₂ w₂ s₂ = some o) :
    SameReadings o s₁.context s₂.context (w₁.managers m₁) (w₁'.managers m₁) (w₂.managers m₂)
      (w₂'.managers m₂) := by
  have a := finish_wrote hr₁.last ho₁
  have b := finish_wrote hr₂.last ho₂
  refine ⟨⟨a.errorType, b.errorType⟩, fun r hr => ?_, fun hrec => ?_, fun hm hn₁ hn₂ => ?_,
    fun hnone => ?_, fun hrec => ?_⟩
  · rw [a.response, b.response, hr]; exact ⟨rfl, rfl⟩
  · rw [a.fetchedRawData, b.fetchedRawData, if_pos hrec, if_pos hrec]; exact ⟨rfl, rfl⟩
  · exact ⟨a.errorMessage hn₁ hm, b.errorMessage hn₂ hm⟩
  · rw [a.response, b.response, hnone]; exact ⟨rfl, rfl⟩
  · rw [a.fetchedRawData, b.fetchedRawData, hrec]; exact ⟨rfl, rfl⟩

end World

end Readings

namespace World

/-- Two loads that fail for want of a connection, the second after a success. -/
theorem readings_without_network :
    ∃ w₁ w₂, exec step init
        [⟨{ Context.plain .noCache with isReachable := false }, .loadData 0⟩] = some w₁ ∧
      exec step init
        [⟨.plain .noCache, .loadData 0⟩, ⟨.plain .noCache, .finish 0 (some (.object .empty)) none⟩,
          ⟨.plain .noCache, .runMain⟩, ⟨.plain .noCache, .runMain⟩,
          ⟨{ Context.plain .noCache with isReachable := false }, .loadData 0⟩] = some w₂ ∧
      (w₁.managers 0).errorMessage = (w₂.managers 0).errorMessage := by
  have hr₁ : Run step (launch .init) ([] ++ [_]) _ := run_of_exec
    ([⟨{ Context.plain .noCache with isReachable := false }, .loadData 0⟩] : List Step) rfl
  have hr₂ : Run step (launch .init) ([_, _, _, _] ++ [_]) _ := run_of_exec
    ([⟨.plain .noCache, .loadData 0⟩, ⟨.plain .noCache, .finish 0 (some (.object .empty)) none⟩,
      ⟨.plain .noCache, .runMain⟩, ⟨.plain .noCache, .runMain⟩,
      ⟨{ Context.plain .noCache with isReachable := false }, .loadData 0⟩] : List Step) rfl
  have h := @same_result_same_readings _ 0 0 _ _ _ _ _ _ _ _ _ _ ⟨none, .noNetWork⟩ hr₁ hr₂ rfl rfl
  obtain ⟨h1, h2⟩ := h.errorMessage rfl rfl rfl
  exact ⟨_, _, rfl, rfl, h1.trans h2.symm⟩

/-- **An earlier response is kept.** Both runs end with a load that fails for want of a
connection; after a success the failed load still shows the response of that success. -/
theorem response_kept :
    ∃ h₁ w₁ s₁ w₁' h₂ w₂ s₂ w₂', Run step init (h₁ ++ [(w₁, s₁)]) w₁' ∧
      Run step init (h₂ ++ [(w₂, s₂)]) w₂' ∧
      resultOf 0 w₁ s₁ = some ⟨none, .noNetWork⟩ ∧ resultOf 0 w₂ s₂ = some ⟨none, .noNetWork⟩ ∧
      s₁.context.notifies none .noNetWork = true ∧ s₂.context.notifies none .noNetWork = true ∧
      (w₁'.managers 0).response = none ∧ (w₂'.managers 0).response ≠ none ∧
      (w₁'.managers 0).fetchedRawData = none ∧ (w₂'.managers 0).fetchedRawData ≠ none := by
  have hr₁ : Run step (launch .init) ([] ++ [_]) _ := run_of_exec
    ([⟨{ Context.plain .noCache with isReachable := false }, .loadData 0⟩] : List Step) rfl
  have hr₂ : Run step (launch .init) ([_, _, _, _] ++ [_]) _ := run_of_exec
    ([⟨.plain .noCache, .loadData 0⟩, ⟨.plain .noCache, .finish 0 (some (.object .empty)) none⟩,
      ⟨.plain .noCache, .runMain⟩, ⟨.plain .noCache, .runMain⟩,
      ⟨{ Context.plain .noCache with isReachable := false }, .loadData 0⟩] : List Step) rfl
  exact ⟨_, _, _, _, _, _, _, _, hr₁, hr₂, rfl, rfl, rfl, rfl, rfl, Option.some_ne_none _, rfl,
    Option.some_ne_none _⟩

end World

end RCSdk
