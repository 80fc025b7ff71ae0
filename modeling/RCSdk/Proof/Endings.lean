import RCSdk.Spec.BaseManager

/-!
# What the two endings of a load do

`failedOnCallingAPI` and `successedOnCallingAPI`, field by field. Later proofs use these
lemmas and never unfold the two methods.

* `failed_*`: the fields, blocks and hooks a failure leaves.
* `successed_cases`: a success either performs (the validator found no error) or fails.
* `Ended`, `failed_ended`, `successed_ended`: what every ending has in common, above all
  that it leaves exactly one mark: one notification on the main queue, or one outcome.
-/

namespace RCSdk

/-! ## Small methods -/

theorem foldl_last_equal (i : ℤ) (l : List ℤ) (r : Option ℤ) :
    l.foldl (fun r s => if s = i then some s else r) r = if i ∈ l then some i else r := by
  induction l generalizing r with
  | nil => simp
  | cons s l ih =>
    rw [List.foldl_cons, ih]
    by_cases hs : s = i
    · subst hs; simp
    · have : i ≠ s := Ne.symm hs
      simp [hs, this]

/-- `removeRequestIdWithRequestID:` removes every occurrence of the id. -/
@[simp] theorem removeRequestIdWithRequestID_eq (i : ℤ) (l : List ℤ) :
    removeRequestIdWithRequestID i l = l.filter (· ≠ i) := by
  unfold removeRequestIdWithRequestID
  dsimp only
  rw [foldl_last_equal]
  split_ifs with h
  · rfl
  · symm; rw [List.filter_eq_self]
    intro s hs
    simpa using fun hsi : s = i => h (hsi ▸ hs)

@[simp] theorem requestIdOf_some (r : RCURLResponse) : requestIdOf (some r) = r.requestId := rfl

/-- A getter that answers `true` read a set flag and a list that is not empty. -/
theorem getIsLoading_iff (s : RCAPIBaseManager) :
    s.getIsLoading = true ↔ s.requestIdList ≠ [] ∧ s.isLoading = true := by
  unfold RCAPIBaseManager.getIsLoading
  split_ifs with h
  · simp [List.length_eq_zero_iff.1 h]
  · exact (and_iff_right fun h0 => h (List.length_eq_zero_iff.2 h0)).symm

/-! ## Failure -/

/-- A failure of this type and response is reported by a fail block: it is neither of the
two token errors, and the service lets it through. -/
def Context.notifies (c : Context) (response : Option RCURLResponse)
    (errorType : RCAPIManagerErrorType) : Bool :=
  errorType ≠ .needLogin && errorType ≠ .needAccessToken &&
    c.service.handleCommonErrorWithResponse response errorType

/-- The outcome of a failure that no fail block reports. -/
def failMarks (c : Context) (response : Option RCURLResponse) (errorType : RCAPIManagerErrorType) :
    List Hook :=
  if errorType = .needLogin then [.tokenIllegal]
  else if errorType = .needAccessToken then [.tokenInvalid]
  else if c.service.handleCommonErrorWithResponse response errorType = false then [.swallowed]
  else []

section Failed

variable (c : Context) (m : ManagerId) (k : LoadId) (response : Option RCURLResponse)
  (errorType : RCAPIManagerErrorType) (x : Effects)

/-- **The fields after a failure.** -/
theorem failed_self : (failedOnCallingAPI c m k response errorType x).self =
    { x.self with
      isLoading := false
      response := response.or x.self.response
      errorType
      requestIdList := x.self.requestIdList.filter (· ≠ requestIdOf response)
      errorMessage :=
        if c.notifies response errorType then errorMessageFor errorType x.self.errorMessage
        else x.self.errorMessage } := by
  unfold failedOnCallingAPI Context.notifies
  simp only [removeRequestIdWithRequestID_eq]
  by_cases h1 : errorType = .needLogin
  · cases response <;> simp [h1]
  by_cases h2 : errorType = .needAccessToken
  · cases response <;> simp [h2]
  cases c.service.handleCommonErrorWithResponse response errorType <;>
    cases response <;> simp [h1, h2]

@[simp] theorem failed_cacheCenter :
    (failedOnCallingAPI c m k response errorType x).cacheCenter = x.cacheCenter := by
  unfold failedOnCallingAPI
  dsimp only
  split_ifs <;> rfl

@[simp] theorem failed_blocks : (failedOnCallingAPI c m k response errorType x).blocks =
    x.blocks ++ if c.notifies response errorType then [.failed m k response] else [] := by
  unfold failedOnCallingAPI Context.notifies
  by_cases h1 : errorType = .needLogin
  · simp [h1]
  by_cases h2 : errorType = .needAccessToken
  · simp [h2]
  cases c.service.handleCommonErrorWithResponse response errorType <;> simp [h1, h2]

@[simp] theorem failed_trace : (failedOnCallingAPI c m k response errorType x).trace =
    x.trace ++ failMarks c response errorType := by
  unfold failedOnCallingAPI failMarks
  dsimp only
  split_ifs <;> simp

end Failed

/-! ## Success -/

/-- The hooks of a success that found no error. -/
def successHooks (c : Context) (response : RCURLResponse) : List Hook :=
  Context.hookIf (·.didReceiveResponse) c.interceptor .didReceiveResponse ++
    (Context.hookIf (·.beforePerformSuccess.isSome) c.otherInterceptor .beforePerformSuccess ++
    ((if c.beforePerformSuccess response then [] else [.vetoed]) ++
      Context.hookIf (·.afterPerformSuccess) c.otherInterceptor .afterPerformSuccess))

section Performed

variable (c : Context) (m : ManagerId) (k : LoadId) (response : RCURLResponse) (x : Effects)

@[simp] theorem performSuccess_self :
    (performSuccess c m k response x).self = { x.self with errorType := .success } := by
  unfold performSuccess; dsimp only; split_ifs <;> rfl

@[simp] theorem performSuccess_cacheCenter :
    (performSuccess c m k response x).cacheCenter = x.cacheCenter := by
  unfold performSuccess; dsimp only; split_ifs <;> rfl

@[simp] theorem performSuccess_blocks : (performSuccess c m k response x).blocks =
    x.blocks ++ if c.beforePerformSuccess response then [.success m k response] else [] := by
  unfold performSuccess; dsimp only; split_ifs <;> simp

@[simp] theorem performSuccess_trace : (performSuccess c m k response x).trace =
    x.trace ++ successHooks c response := by
  unfold performSuccess successHooks; dsimp only; split_ifs <;> simp

end Performed

/-- What `successedOnCallingAPI:` writes before it asks the validator. -/
def Effects.receive (response : RCURLResponse) (rawData : RawData) (x : Effects) : Effects :=
  { x with
    self := { x.self with
      isLoading := false
      response := some response
      fetchedRawData := some rawData
      requestIdList := x.self.requestIdList.filter (· ≠ response.requestId) } }

variable [Foundation]

/-- **The two ways of a success.** -/
theorem successed_cases {c : Context} {m : ManagerId} {k : LoadId} {response : RCURLResponse}
    {x x' : Effects} (h : successedOnCallingAPI c m k response x = some x') :
    ∃ rawData, rawDataOf response = some rawData ∧
      ((c.isCorrectWithCallBackData response.content = .noError ∧
          ∃ cacheCenter, saveResponse c response x.cacheCenter = some cacheCenter ∧
            x' = performSuccess c m k response { x.receive response rawData with cacheCenter }) ∨
        (c.isCorrectWithCallBackData response.content ≠ .noError ∧
          x' = failedOnCallingAPI c m k (some response)
            (c.isCorrectWithCallBackData response.content) (x.receive response rawData))) := by
  unfold successedOnCallingAPI at h
  simp only [Option.bind_eq_some_iff, removeRequestIdWithRequestID_eq] at h
  obtain ⟨rawData, hraw, h⟩ := h
  refine ⟨rawData, hraw, ?_⟩
  split_ifs at h with herr
  · obtain ⟨cacheCenter, hsave, rfl⟩ := Option.map_eq_some_iff.1 h
    exact Or.inl ⟨herr, cacheCenter, hsave, rfl⟩
  · obtain rfl := Option.some.inj h
    exact Or.inr ⟨herr, rfl⟩

/-! ## What every ending has in common -/

omit [Foundation]

/-- The hooks that say how a load ended. -/
def Hook.isOutcome : Hook → Bool
  | .vetoed | .didSuccess _ _ | .didFailed _ _ | .tokenIllegal | .tokenInvalid | .swallowed => true
  | _ => false

/-- The hook that says a load was let through. -/
def Hook.isCalled : Hook → Bool
  | .called _ _ => true
  | _ => false

/-- The hooks of a notification that was delivered. -/
def Hook.isNotification : Hook → Bool
  | .didSuccess _ _ | .didFailed _ _ => true
  | _ => false

/-- **A load of manager `m` has ended**, with a response or without. -/
structure Ended (m : ManagerId) (k : LoadId) (response : Option RCURLResponse) (x x' : Effects) :
    Prop where
  isLoading : x'.self.isLoading = false
  requestIdList : x'.self.requestIdList = x.self.requestIdList.filter (· ≠ requestIdOf response)
  successBlock : x'.self.successBlock = x.self.successBlock
  failBlock : x'.self.failBlock = x.self.failBlock
  mark : ∃ blocks hooks, x'.blocks = x.blocks ++ blocks ∧ x'.trace = x.trace ++ hooks ∧
    (∀ b ∈ blocks, b = .failed m k response ∨ ∃ r, response = some r ∧ b = .success m k r) ∧
    (∀ hook ∈ hooks, hook.isCalled = false ∧ hook.isNotification = false) ∧
    blocks.length + hooks.countP Hook.isOutcome = 1

theorem mem_hookIf {p : RCAPIManagerInterceptor → Bool} {i : Option RCAPIManagerInterceptor}
    {hook hook' : Hook} (h : hook' ∈ Context.hookIf p i hook) : hook' = hook := by
  unfold Context.hookIf at h
  split at h
  · exact List.mem_singleton.1 h
  · simp at h

theorem countP_hookIf {p : RCAPIManagerInterceptor → Bool} {i : Option RCAPIManagerInterceptor}
    {hook : Hook} {q : Hook → Bool} (h : q hook = false) :
    (Context.hookIf p i hook).countP q = 0 :=
  List.countP_eq_zero.2 fun a ha => by rw [mem_hookIf ha, h]; exact Bool.false_ne_true

theorem failMarks_quiet {c : Context} {response : Option RCURLResponse}
    {errorType : RCAPIManagerErrorType} :
    ∀ hook ∈ failMarks c response errorType, hook.isCalled = false ∧ hook.isNotification = false := by
  unfold failMarks
  split_ifs <;> simp [Hook.isCalled, Hook.isNotification]

/-- A failure is reported by a fail block or by an outcome of its own, not by both. -/
theorem failMarks_countP (c : Context) (m : ManagerId) (k : LoadId)
    (response : Option RCURLResponse) (errorType : RCAPIManagerErrorType) :
    (if c.notifies response errorType then [MainBlock.failed m k response] else []).length +
      (failMarks c response errorType).countP Hook.isOutcome = 1 := by
  unfold failMarks Context.notifies
  by_cases h1 : errorType = .needLogin
  · simp [h1, Hook.isOutcome]
  by_cases h2 : errorType = .needAccessToken
  · simp [h2, Hook.isOutcome]
  cases c.service.handleCommonErrorWithResponse response errorType <;> simp [h1, h2, Hook.isOutcome]

/-- The hooks of a success. -/
theorem eq_of_mem_successHooks {c : Context} {response : RCURLResponse} {hook : Hook}
    (h : hook ∈ successHooks c response) :
    hook = .didReceiveResponse ∨ hook = .beforePerformSuccess ∨ hook = .afterPerformSuccess ∨
      hook = .vetoed := by
  simp only [successHooks, List.mem_append] at h
  rcases h with h | h | h | h
  · exact Or.inl (mem_hookIf h)
  · exact Or.inr (Or.inl (mem_hookIf h))
  · split at h
    · cases h
    · exact Or.inr (Or.inr (Or.inr (List.mem_singleton.1 h)))
  · exact Or.inr (Or.inr (Or.inl (mem_hookIf h)))

theorem successHooks_quiet {c : Context} {response : RCURLResponse} :
    ∀ hook ∈ successHooks c response, hook.isCalled = false ∧ hook.isNotification = false := by
  intro hook h
  rcases eq_of_mem_successHooks h with rfl | rfl | rfl | rfl <;> exact ⟨rfl, rfl⟩

/-- A success is reported by a success block or was vetoed, not both. -/
theorem successHooks_countP (c : Context) (m : ManagerId) (k : LoadId) (response : RCURLResponse) :
    (if c.beforePerformSuccess response then [MainBlock.success m k response] else []).length +
      (successHooks c response).countP Hook.isOutcome = 1 := by
  have h1 : (Context.hookIf (·.didReceiveResponse) c.interceptor .didReceiveResponse).countP
      Hook.isOutcome = 0 := countP_hookIf rfl
  have h2 : (Context.hookIf (·.beforePerformSuccess.isSome) c.otherInterceptor
      .beforePerformSuccess).countP Hook.isOutcome = 0 := countP_hookIf rfl
  have h3 : (Context.hookIf (·.afterPerformSuccess) c.otherInterceptor .afterPerformSuccess).countP
      Hook.isOutcome = 0 := countP_hookIf rfl
  simp only [successHooks, List.countP_append, h1, h2, h3]
  cases c.beforePerformSuccess response <;> simp [Hook.isOutcome]

theorem failed_ended (c : Context) (m : ManagerId) (k : LoadId) (response : Option RCURLResponse)
    (errorType : RCAPIManagerErrorType) (x : Effects) :
    Ended m k response x (failedOnCallingAPI c m k response errorType x) := by
  refine ⟨by rw [failed_self], by rw [failed_self], by rw [failed_self], by rw [failed_self],
    _, _, failed_blocks .., failed_trace .., ?_, failMarks_quiet, failMarks_countP c m k response errorType⟩
  intro b hb
  split at hb
  · exact Or.inl (List.mem_singleton.1 hb)
  · simp at hb

theorem performed_ended (c : Context) (m : ManagerId) (k : LoadId) (response : RCURLResponse)
    (rawData : RawData) (cacheCenter : RCCacheCenter) (x : Effects) :
    Ended m k (some response) x
      (performSuccess c m k response { x.receive response rawData with cacheCenter }) := by
  refine ⟨by rw [performSuccess_self]; rfl, by rw [performSuccess_self]; rfl,
    by rw [performSuccess_self]; rfl, by rw [performSuccess_self]; rfl,
    _, _, performSuccess_blocks .., performSuccess_trace .., ?_, successHooks_quiet,
    successHooks_countP c m k response⟩
  intro b hb
  split at hb
  · exact Or.inr ⟨response, rfl, List.mem_singleton.1 hb⟩
  · simp at hb

/-- A failure behind a validator is an ending of what the success started from. -/
theorem received_failed_ended (c : Context) (m : ManagerId) (k : LoadId) (response : RCURLResponse)
    (rawData : RawData) (errorType : RCAPIManagerErrorType) (x : Effects) :
    Ended m k (some response) x
      (failedOnCallingAPI c m k (some response) errorType (x.receive response rawData)) := by
  have h := failed_ended c m k (some response) errorType (x.receive response rawData)
  refine ⟨h.isLoading, ?_, h.successBlock, h.failBlock, h.mark⟩
  rw [h.requestIdList]
  simp only [Effects.receive, requestIdOf_some, List.filter_filter]
  exact List.filter_congr fun a _ => Bool.and_self _

/-- **Every success is an ending with its response.** -/
theorem successed_ended [Foundation] {c : Context} {m : ManagerId} {k : LoadId}
    {response : RCURLResponse} {x x' : Effects} (h : successedOnCallingAPI c m k response x = some x') :
    Ended m k (some response) x x' := by
  obtain ⟨rawData, -, ⟨-, cacheCenter, -, rfl⟩ | ⟨-, rfl⟩⟩ := successed_cases h
  · exact performed_ended c m k response rawData cacheCenter x
  · exact received_failed_ended c m k response rawData _ x

end RCSdk
