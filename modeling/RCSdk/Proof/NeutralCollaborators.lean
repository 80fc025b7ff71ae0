import RCSdk.Proof.Conservation

/-!
# Collaborators that are not set

An interceptor that is `nil` lets everything pass: the manager's own hooks answer `YES`
before they ask it. A validator that is `nil` is asked all the same, and the message to
`nil` answers the zero of the error types, which is an expired token.

A run is compared with the same run in which, at any steps, an unset interceptor has become
one that always answers `YES` and an unset validator one that never finds an error.

* `alike_step`: where no validator that was replaced is asked, both runs go on alike.
* `invalid_of_asked`, `valid_of_neutral`: where one is asked, one run says the token is
  invalid and the other does not.
* `neutral_iff`: the two runs send the same requests, write the same caches and notify
  alike throughout exactly when no replaced validator is asked.
* `unset_validator_fails`: a manager without a validator sends nothing.
-/

namespace RCSdk

open Trans

/-- A validator that never finds an error. -/
def RCAPIManagerValidator.FindsNoError (v : RCAPIManagerValidator) : Prop :=
  (∀ content, v.isCorrectWithCallBackData content = .noError) ∧
    ∀ params, v.isCorrectWithParamsData params = .noError

/-- An interceptor that answers `YES` wherever it is asked. -/
structure RCAPIManagerInterceptor.AnswersYes (i : RCAPIManagerInterceptor) : Prop where
  success : ∀ answer, i.beforePerformSuccess = some answer → ∀ response, answer response = true
  fail : ∀ answer, i.beforePerformFail = some answer → ∀ response, answer response = true
  call : ∀ answer, i.shouldCallAPI = some answer → ∀ params, answer params = true

namespace World

/-- **A step of a run, twice**: as the manager finds its collaborators, and with some that
are not set replaced by neutral ones. -/
structure NeutralStep where
  given : Context
  event : Event
  validator : Option RCAPIManagerValidator
  interceptor : Option RCAPIManagerInterceptor
  validator_neutral : validator = given.validator ∨
    given.validator = none ∧ ∃ v, validator = some v ∧ v.FindsNoError
  interceptor_neutral : interceptor = given.interceptor ∨
    given.interceptor = none ∧ ∃ i, interceptor = some i ∧ i.AnswersYes

namespace NeutralStep

variable (p : NeutralStep)

/-- The context with the neutral collaborators. -/
def neutral : Context := { p.given with validator := p.validator, interceptor := p.interceptor }

/-! ## What the interceptor answers -/

theorem other_neutral : p.neutral.otherInterceptor = p.given.otherInterceptor ∨
    p.given.otherInterceptor = none ∧
      ∃ i, p.neutral.otherInterceptor = some i ∧ i.AnswersYes := by
  rcases p.interceptor_neutral with h | ⟨h0, i, hi, hyes⟩
  · left; simp only [Context.otherInterceptor, neutral, h]
  · cases hm : i.isManager with
    | true => left; simp [Context.otherInterceptor, neutral, h0, hi, hm]
    | false =>
      right
      exact ⟨by simp [Context.otherInterceptor, h0], i,
        by simp [Context.otherInterceptor, neutral, hi, hm], hyes⟩

/-- A question the interceptor may answer: a neutral one that is asked says `YES`. -/
theorem answer_neutral {α : Type} {f : RCAPIManagerInterceptor → Option (α → Bool)}
    (hf : ∀ i, i.AnswersYes → ∀ answer, f i = some answer → ∀ a, answer a = true) :
    p.neutral.otherInterceptor.bind f = p.given.otherInterceptor.bind f ∨
      p.given.otherInterceptor.bind f = none ∧
        ∃ answer, p.neutral.otherInterceptor.bind f = some answer ∧ ∀ a, answer a = true := by
  rcases p.other_neutral with h | ⟨h0, i, hi, hyes⟩
  · exact Or.inl (by rw [h])
  · rw [h0, hi, Option.bind_none, Option.bind_some]
    cases hc : f i with
    | none => exact Or.inl rfl
    | some answer => exact Or.inr ⟨rfl, answer, rfl, hf i hyes answer hc⟩

theorem shouldCallAPI_eq (params : NSDictionary) :
    p.neutral.shouldCallAPIWithParams params = p.given.shouldCallAPIWithParams params := by
  unfold Context.shouldCallAPIWithParams
  rcases p.answer_neutral fun _ hyes => hyes.call with h | ⟨h0, answer, h, hyes⟩
  · rw [h]
  · rw [h0, h]
    exact hyes params

theorem beforePerformSuccess_eq (response : RCURLResponse) :
    p.neutral.beforePerformSuccess response = p.given.beforePerformSuccess response := by
  unfold Context.beforePerformSuccess
  rcases p.answer_neutral fun _ hyes => hyes.success with h | ⟨h0, answer, h, hyes⟩
  · rw [h]
  · rw [h0, h]
    exact hyes response

theorem beforePerformFail_eq (response : Option RCURLResponse) :
    p.neutral.beforePerformFail response = p.given.beforePerformFail response := by
  unfold Context.beforePerformFail
  rcases p.answer_neutral fun _ hyes => hyes.fail with h | ⟨h0, answer, h, hyes⟩
  · rw [h]
  · rw [h0, h]
    exact hyes response

end NeutralStep

end World

/-! ## What can be seen -/

/-- The hooks that call the interceptor, which nobody else sees. -/
def Hook.isInterceptors : Hook → Bool
  | .afterCallingAPI | .didReceiveResponse | .beforePerformSuccess | .afterPerformSuccess
  | .beforePerformFail | .afterPerformFail => true
  | _ => false

/-- The hooks that others see. -/
def seenOf (hooks : List Hook) : List Hook := hooks.filter fun hook => !hook.isInterceptors

theorem seenOf_append (hooks hooks' : List Hook) :
    seenOf (hooks ++ hooks') = seenOf hooks ++ seenOf hooks' := List.filter_append ..

theorem seenOf_hookIf {f : RCAPIManagerInterceptor → Bool} {i : Option RCAPIManagerInterceptor}
    {hook : Hook} (h : hook.isInterceptors = true) : seenOf (Context.hookIf f i hook) = [] := by
  unfold Context.hookIf
  split
  · simp [seenOf, h]
  · rfl

theorem seenOf_successHooks (c : Context) (response : RCURLResponse) :
    seenOf (successHooks c response) = if c.beforePerformSuccess response then [] else [.vetoed] := by
  have h1 : seenOf (Context.hookIf (·.didReceiveResponse) c.interceptor .didReceiveResponse) = [] :=
    seenOf_hookIf rfl
  have h2 : seenOf (Context.hookIf (·.beforePerformSuccess.isSome) c.otherInterceptor
      .beforePerformSuccess) = [] := seenOf_hookIf rfl
  have h3 : seenOf (Context.hookIf (·.afterPerformSuccess) c.otherInterceptor
      .afterPerformSuccess) = [] := seenOf_hookIf rfl
  rw [successHooks, seenOf_append, seenOf_append, seenOf_append, h1, h2, h3]
  split <;> rfl

theorem seenOf_failHooks (c : Context) (response : Option RCURLResponse) (block : Option Block) :
    seenOf (World.failHooks c response block) =
      [.didFailed (c.beforePerformFail response && c.hasDelegate) block] := by
  have h1 : seenOf (Context.hookIf (·.didReceiveResponse) c.interceptor .didReceiveResponse) = [] :=
    seenOf_hookIf rfl
  have h2 : seenOf (Context.hookIf (·.beforePerformFail.isSome) c.otherInterceptor
      .beforePerformFail) = [] := seenOf_hookIf rfl
  have h3 : seenOf (Context.hookIf (·.afterPerformFail) c.otherInterceptor
      .afterPerformFail) = [] := seenOf_hookIf rfl
  rw [World.failHooks, seenOf_append, seenOf_append, seenOf_append, h1, h2, h3]
  rfl

namespace World

/-- What others saw of a run. -/
def seen (w : World) : List (ManagerId × LoadId × Hook) :=
  w.trace.filter fun e => !e.2.2.isInterceptors

/-- **What the two runs must have in common**: the requests, the caches, the notifications. -/
structure SameSeen (w w' : World) : Prop where
  proxy : w'.proxy = w.proxy
  cacheCenter : w'.cacheCenter = w.cacheCenter
  seen : w'.seen = w.seen

/-- Two worlds that differ in nothing but calls of the interceptor. -/
structure Alike (w w' : World) : Prop where
  same : w' = { w with trace := w'.trace }
  seen : w'.seen = w.seen

theorem Alike.sameSeen {w w' : World} (h : Alike w w') : SameSeen w w' :=
  ⟨by rw [h.same], by rw [h.same], h.seen⟩

theorem Alike.refl (w : World) : Alike w w := ⟨rfl, rfl⟩

theorem seen_note (m : ManagerId) (k : LoadId) (hooks : List Hook) (w : World) :
    (w.note m k hooks).seen = w.seen ++ (seenOf hooks).map fun hook => (m, k, hook) := by
  rw [seen, note_trace, List.filter_append, List.filter_map]
  rfl

/-- The same change of the state, not of what is seen. -/
theorem Alike.congr {w w' : World} (h : Alike w w') (f : World → World)
    (hf : ∀ w trace, f { w with trace } = { f w with trace }) (ht : ∀ w, (f w).trace = w.trace) :
    Alike (f w) (f w') := by
  have hs : ∀ v, (f v).seen = v.seen := fun v => congrArg (List.filter _) (ht v)
  refine ⟨?_, by rw [hs, hs, h.seen]⟩
  rw [ht]
  conv_lhs => rw [h.same]
  exact hf w w'.trace

theorem Alike.note {w w' : World} (h : Alike w w') (m : ManagerId) (k : LoadId)
    {hooks hooks' : List Hook} (hh : seenOf hooks' = seenOf hooks) :
    Alike (w.note m k hooks) (w'.note m k hooks') := by
  refine ⟨?_, by rw [seen_note, seen_note, h.seen, hh]⟩
  rw [h.same]
  rfl

theorem Alike.enter {w w' : World} (h : Alike w w') (m : ManagerId) : w'.enter m = w.enter m := by
  rw [h.same]
  rfl

/-- The same effects, but for calls of the interceptor. -/
structure AlikeEffects (x x' : Effects) : Prop where
  self : x'.self = x.self
  cacheCenter : x'.cacheCenter = x.cacheCenter
  blocks : x'.blocks = x.blocks
  trace : seenOf x'.trace = seenOf x.trace

theorem AlikeEffects.refl (x : Effects) : AlikeEffects x x := ⟨rfl, rfl, rfl, rfl⟩

theorem Alike.leave {w w' : World} (h : Alike w w') (m : ManagerId) (k : LoadId) {x x' : Effects}
    (hx : AlikeEffects x x') : Alike (w.leave m k x) (w'.leave m k x') := by
  unfold World.leave
  refine Alike.note ?_ m k hx.trace
  refine ⟨?_, h.seen⟩
  rw [h.same, hx.self, hx.cacheCenter, hx.blocks]

/-! ## The endings -/

theorem failed_neutral (p : NeutralStep) (m : ManagerId) (k : LoadId) (response : Option RCURLResponse)
    (errorType : RCAPIManagerErrorType) (x : Effects) :
    failedOnCallingAPI p.neutral m k response errorType x =
      failedOnCallingAPI p.given m k response errorType x := rfl

theorem performSuccess_alike (p : NeutralStep) (m : ManagerId) (k : LoadId) (response : RCURLResponse)
    (x : Effects) :
    AlikeEffects (performSuccess p.given m k response x) (performSuccess p.neutral m k response x) := by
  refine ⟨?_, ?_, ?_, ?_⟩
  · rw [performSuccess_self, performSuccess_self]
  · rw [performSuccess_cacheCenter, performSuccess_cacheCenter]
  · rw [performSuccess_blocks, performSuccess_blocks, p.beforePerformSuccess_eq]
  · rw [performSuccess_trace, performSuccess_trace, seenOf_append, seenOf_append,
      seenOf_successHooks, seenOf_successHooks, p.beforePerformSuccess_eq]

section Steps

variable [Foundation]

/-- Two successes with one validator. -/
theorem successed_alike (p : NeutralStep) (hv : p.validator = p.given.validator) (m : ManagerId)
    (k : LoadId) (response : RCURLResponse) (x : Effects) :
    Option.Rel AlikeEffects (successedOnCallingAPI p.given m k response x)
      (successedOnCallingAPI p.neutral m k response x) := by
  have hans : p.neutral.isCorrectWithCallBackData response.content =
      p.given.isCorrectWithCallBackData response.content := by
    unfold Context.isCorrectWithCallBackData NeutralStep.neutral
    rw [hv]
  have hsave : ∀ cacheCenter, saveResponse p.neutral response cacheCenter =
      saveResponse p.given response cacheCenter := fun _ => rfl
  unfold successedOnCallingAPI
  cases rawDataOf response with
  | none => exact .none
  | some rawData =>
    simp only [Option.bind_some, hans, hsave]
    split_ifs
    · cases saveResponse p.given response x.cacheCenter with
      | none => exact .none
      | some cacheCenter => exact .some (performSuccess_alike p m k response _)
    · exact .some (.refl _)

/-! ## Load calls and completions -/

omit [Foundation] in
theorem startRequest_alike (p : NeutralStep) {w w' : World} (h : Alike w w') (m : ManagerId)
    (k : LoadId) (params : NSDictionary) :
    Alike (w.startRequest p.given m k params).1 (w'.startRequest p.neutral m k params).1 := by
  refine ⟨?_, ?_⟩
  · rw [h.same]
    rfl
  · rw [seen, startRequest_trace, List.filter_append, seen, startRequest_trace, List.filter_append]
    congr 1
    · exact h.seen
    · rw [List.filter_map, List.filter_map]
      exact congrArg _ ((seenOf_hookIf rfl).trans (seenOf_hookIf rfl).symm)

omit [Foundation] in
theorem isReachable_alike (p : NeutralStep) {w w' : World} (h : Alike w w') (m : ManagerId) :
    Alike (w.isReachable p.given m).2 (w'.isReachable p.neutral m).2 := by
  refine h.congr (fun w => (w.isReachable p.given m).2) (fun w trace => ?_) fun w => ?_
  · unfold isReachable
    dsimp only
    split <;> rfl
  · unfold isReachable
    dsimp only
    split <;> rfl

/-- A response of the cache. -/
theorem hit_alike (p : NeutralStep) {w w' : World} (h : Alike w w') (m : ManagerId) (k : LoadId)
    (response : RCURLResponse) (hv : p.validator = p.given.validator) :
    Option.Rel (fun r r' : World × ℤ => Alike r.1 r'.1)
      ((successedOnCallingAPI p.given m k response (w.enter m)).map fun x => (w.leave m k x, 0))
      ((successedOnCallingAPI p.neutral m k response (w'.enter m)).map fun x =>
        (w'.leave m k x, 0)) := by
  have hs := successed_alike p hv m k response (w.enter m)
  rw [h.enter m]
  generalize successedOnCallingAPI p.given m k response (w.enter m) = x at hs
  generalize successedOnCallingAPI p.neutral m k response (w.enter m) = x' at hs
  cases hs with
  | none => exact .none
  | some hx => exact .some (h.leave m k hx)

omit [Foundation] in
/-- No response there: a request, or the failure for want of a connection. -/
theorem miss_alike (p : NeutralStep) {w w' : World} (h : Alike w w') (m : ManagerId) (k : LoadId)
    (params : NSDictionary) :
    Option.Rel (fun r r' : World × ℤ => Alike r.1 r'.1)
      (if p.given.isReachable then
        some ((w.isReachable p.given m).2.startRequest p.given m k params)
      else some ((w.isReachable p.given m).2.leave m k (failedOnCallingAPI p.given m k none
        .noNetWork ((w.isReachable p.given m).2.enter m)), 0))
      (if p.neutral.isReachable then
        some ((w'.isReachable p.neutral m).2.startRequest p.neutral m k params)
      else some ((w'.isReachable p.neutral m).2.leave m k (failedOnCallingAPI p.neutral m k none
        .noNetWork ((w'.isReachable p.neutral m).2.enter m)), 0)) := by
  have hreach := isReachable_alike p h m
  have hnet : p.neutral.isReachable = p.given.isReachable := rfl
  rw [hnet]
  cases p.given.isReachable with
  | true => exact .some (startRequest_alike p hreach m k _)
  | false =>
    refine .some (hreach.leave m k ?_)
    rw [hreach.enter m, failed_neutral]
    exact .refl _

theorem loadDataWithParams_alike (p : NeutralStep) {w w' : World} (h : Alike w w') (m : ManagerId)
    (params : Option NSDictionary) (success fail : Option Block)
    (hv : p.given.shouldCallAPIWithParams (paramsOf p.given params) = true →
      p.validator = p.given.validator) :
    Option.Rel (fun r r' => Alike r.1 r'.1) (w.loadDataWithParams p.given m params success fail)
      (w'.loadDataWithParams p.neutral m params success fail) := by
  have hparams : paramsOf p.neutral params = paramsOf p.given params := rfl
  have hloads : w'.loads = w.loads := by rw [h.same]
  have hcaches : w'.cacheCenter = w.cacheCenter := by rw [h.same]
  have hopened : Alike (w.opened m success fail) (w'.opened m success fail) := by
    unfold opened
    rw [hloads]
    have hcounted : Alike { w with loads := w.loads + 1 } { w' with loads := w.loads + 1 } :=
      h.congr (fun v => { v with loads := w.loads + 1 }) (fun _ _ => rfl) fun _ => rfl
    exact hcounted.note m w.loads rfl
  rw [loadDataWithParams_eq, loadDataWithParams_eq, hparams, p.shouldCallAPI_eq, hloads, hcaches]
  by_cases hcall : p.given.shouldCallAPIWithParams (paramsOf p.given params) = true
  · have hans : p.neutral.isCorrectWithParamsData (paramsOf p.given params) =
        p.given.isCorrectWithParamsData (paramsOf p.given params) := by
      unfold Context.isCorrectWithParamsData NeutralStep.neutral
      rw [hv hcall]
    rw [if_pos hcall, if_pos hcall, hans]
    by_cases herr : p.given.isCorrectWithParamsData (paramsOf p.given params) = .noError
    · rw [if_pos herr, if_pos herr]
      have hfind : cachedResponse p.neutral (paramsOf p.given params) w.cacheCenter =
          cachedResponse p.given (paramsOf p.given params) w.cacheCenter := rfl
      rw [hfind]
      cases cachedResponse p.given (paramsOf p.given params) w.cacheCenter with
      | none => exact .none
      | some found =>
        obtain ⟨cacheCenter, answer⟩ := found
        have hlooked : Alike (w.lookedUp m success fail cacheCenter)
            (w'.lookedUp m success fail cacheCenter) :=
          hopened.congr (fun w => { w with cacheCenter }) (fun _ _ => rfl) fun _ => rfl
        cases answer with
        | some response => exact hit_alike p hlooked m w.loads response (hv hcall)
        | none => exact miss_alike p hlooked m w.loads (paramsOf p.given params)
    · rw [if_neg herr, if_neg herr]
      refine .some (hopened.leave m w.loads ?_)
      rw [hopened.enter m, failed_neutral]
      exact .refl _
  · rw [if_neg hcall, if_neg hcall]
    exact .some (h.congr (fun v => { v with loads := w.loads + 1, cacheCenter := w.cacheCenter })
      (fun _ _ => rfl) fun _ => rfl)

/-- The world a completion handler runs in. -/
def completed (t : TaskRef) (w : World) : World := { w with proxy := w.proxy.complete t }

omit [Foundation] in
theorem Alike.completed {w w' : World} (h : Alike w w') (t : TaskRef) :
    Alike (w.completed t) (w'.completed t) :=
  h.congr (fun w => w.completed t) (fun _ _ => rfl) fun _ => rfl

theorem completionHandler_failed (c : Context) {t : TaskRef} {handler : CompletionHandler}
    {responseObject : Option ResponseObject} {error : Option NSError} {e : NSError} (w : World)
    (herr : errorFor handler responseObject error = some e) :
    w.completionHandler c t handler responseObject error =
      some ((w.completed t).leave handler.manager handler.load
        (failedOnCallingAPI c handler.manager handler.load
          (some (w.responseFor t handler responseObject error))
          (errorTypeForStatus (w.responseFor t handler responseObject error).status)
          ((w.completed t).enter handler.manager))) := by
  unfold errorFor at herr
  simp only [completionHandler, herr]
  rw [responseFor, herr]
  rfl

theorem completionHandler_succeeded (c : Context) {t : TaskRef} {handler : CompletionHandler}
    {responseObject : Option ResponseObject} {error : Option NSError} (w : World)
    (herr : errorFor handler responseObject error = none) :
    w.completionHandler c t handler responseObject error =
      (successedOnCallingAPI c handler.manager handler.load
        (w.responseFor t handler responseObject error)
        ((w.completed t).enter handler.manager)).map fun x =>
          (w.completed t).leave handler.manager handler.load x := by
  unfold errorFor at herr
  simp only [completionHandler, herr]
  rw [responseFor, herr]
  rfl

theorem completionHandler_alike (p : NeutralStep) {w w' : World} (h : Alike w w') (t : TaskRef)
    (handler : CompletionHandler) (responseObject : Option ResponseObject) (error : Option NSError)
    (hv : errorFor handler responseObject error = none → p.validator = p.given.validator) :
    Option.Rel Alike (w.completionHandler p.given t handler responseObject error)
      (w'.completionHandler p.neutral t handler responseObject error) := by
  have hresponse : w'.responseFor t handler responseObject error =
      w.responseFor t handler responseObject error := by rw [h.same]; rfl
  have hdone := h.completed t
  cases herr : errorFor handler responseObject error with
  | some e =>
    rw [completionHandler_failed _ w herr, completionHandler_failed _ w' herr, hresponse,
      hdone.enter, failed_neutral]
    exact .some (hdone.leave _ _ (.refl _))
  | none =>
    rw [completionHandler_succeeded _ w herr, completionHandler_succeeded _ w' herr, hresponse,
      hdone.enter]
    have hs := successed_alike p (hv herr) handler.manager handler.load
      (w.responseFor t handler responseObject error) ((w.completed t).enter handler.manager)
    generalize successedOnCallingAPI p.given handler.manager handler.load _ _ = x at hs
    generalize successedOnCallingAPI p.neutral handler.manager handler.load _ _ = x' at hs
    cases hs with
    | none => exact .none
    | some hx => exact .some (hdone.leave _ _ hx)

/-! ## One step -/

/-- A step comes to ask the validator: a load call that the interceptor lets pass, or a
completion without an error. -/
def AsksValidator (c : Context) (ev : Event) (w : World) : Prop :=
  (∃ m params, (⟨c, ev⟩ : Step).loadCall = some (m, params) ∧
      c.shouldCallAPIWithParams params = true) ∨
    ev = .runMain ∧ ∃ t handler responseObject error rest,
      w.mainQueue = .completion t handler responseObject error :: rest ∧
        errorFor handler responseObject error = none

/-- **The condition on a step**: a validator that is asked was not replaced. -/
def ValidatorKept (w : World) (p : NeutralStep) : Prop :=
  AsksValidator p.given p.event w → p.validator = p.given.validator

/-- The step, as the manager finds its collaborators. -/
def stepGiven (w : World) (p : NeutralStep) : Option World := w.step ⟨p.given, p.event⟩

/-- The step, with the neutral collaborators. -/
def stepNeutral (w : World) (p : NeutralStep) : Option World := w.step ⟨p.neutral, p.event⟩

omit [Foundation] in
/-- The rest of a load, whose result a step drops. -/
theorem rel_map_fst {r r' : Option (World × ℤ)} (h : Option.Rel (fun r r' => Alike r.1 r'.1) r r') :
    Option.Rel Alike (r.map Prod.fst) (r'.map Prod.fst) := by
  cases h with
  | none => exact .none
  | some h => exact .some h

omit [Foundation] in
theorem Alike.modifyManager {w w' : World} (h : Alike w w') (m : ManagerId)
    (f : RCAPIBaseManager → RCAPIBaseManager) : Alike (w.modifyManager m f) (w'.modifyManager m f) :=
  h.congr (fun w => w.modifyManager m f) (fun _ _ => rfl) fun _ => rfl

/-- **Where no validator that was replaced is asked, both runs go on alike**, or both raise. -/
theorem alike_step {w w' : World} {p : NeutralStep} (h : Alike w w') (hc : ValidatorKept w p) :
    Option.Rel Alike (stepGiven w p) (stepNeutral w' p) := by
  have hqueue : w'.mainQueue = w.mainQueue := by rw [h.same]
  unfold stepGiven stepNeutral
  cases hev : p.event with
  | loadData m =>
    refine rel_map_fst (loadDataWithParams_alike p h m _ none none fun hcall => hc ?_)
    exact Or.inl ⟨m, _, by rw [hev]; rfl, hcall⟩
  | loadDataWithBlocks m params success fail =>
    refine rel_map_fst (loadDataWithParams_alike p (h.modifyManager m _) m params success fail
      fun hcall => hc ?_)
    exact Or.inl ⟨m, _, by rw [hev]; rfl, hcall⟩
  | finish t responseObject error =>
    refine .some (h.congr (fun w => w.finish t responseObject error) (fun w trace => ?_) fun w => ?_)
    · unfold World.finish
      dsimp only
      split
      · split <;> rfl
      · rfl
    · unfold World.finish
      split
      · split <;> rfl
      · rfl
  | runMain =>
    simp only [step, hqueue]
    cases hq : w.mainQueue with
    | nil => exact .some h
    | cons b rest =>
      have hrest : Alike { w with mainQueue := rest } { w' with mainQueue := rest } :=
        h.congr (fun w => { w with mainQueue := rest }) (fun _ _ => rfl) fun _ => rfl
      cases b with
      | completion t handler responseObject error =>
        refine completionHandler_alike p hrest t handler responseObject error fun herr => hc ?_
        exact Or.inr ⟨hev, t, handler, responseObject, error, rest, hq, herr⟩
      | success m k response =>
        have hblock : (w'.managers m).successBlock = (w.managers m).successBlock := by rw [h.same]
        refine .some (hrest.note m k ?_)
        rw [← hblock]
        rfl
      | failed m k response =>
        have hblock : (w'.managers m).failBlock = (w.managers m).failBlock := by rw [h.same]
        simp only [runBlock, notifyFailed_eq]
        refine .some (hrest.note m k ?_)
        rw [seenOf_failHooks, seenOf_failHooks, p.beforePerformFail_eq, ← hblock]
        rfl
  | cancelAllRequests m =>
    exact .some (h.congr (fun w => w.cancelAllRequests m) (fun _ _ => rfl) fun _ => rfl)
  | cancelRequestWithRequestId m requestID =>
    exact .some (h.congr (fun w => w.cancelRequestWithRequestId m requestID) (fun _ _ => rfl)
      fun _ => rfl)
  | cleanData m => exact .some (h.modifyManager m _)
  | isReachable m => exact .some (isReachable_alike p h m)
  | isLoading m => exact .some (h.modifyManager m _)
  | cleanAllMemoryCache =>
    exact .some (h.congr (fun w => { w with cacheCenter := w.cacheCenter.cleanAllMemoryCache })
      (fun _ _ => rfl) fun _ => rfl)
  | cleanAllDiskCache =>
    exact .some (h.congr (fun w => { w with cacheCenter := w.cacheCenter.cleanAllDiskCache })
      (fun _ _ => rfl) fun _ => rfl)
  | evict key =>
    exact .some (h.congr (fun w => { w with cacheCenter := w.cacheCenter.evict key })
      (fun _ _ => rfl) fun _ => rfl)

/-! ## A validator that is asked -/

omit [Foundation] in
/-- How often a token was said to be invalid. -/
def invalids (w : World) : ℕ := w.trace.countP fun e => e.2.2 == .tokenInvalid

omit [Foundation] in
theorem SameSeen.invalids {w w' : World} (h : SameSeen w w') : w'.invalids = w.invalids := by
  have hseen : ∀ v : World, v.invalids = v.seen.countP fun e => e.2.2 == .tokenInvalid := by
    intro v
    rw [World.invalids, World.seen, List.countP_filter]
    refine List.countP_congr fun e _ => ?_
    cases e.2.2 <;> simp [Hook.isInterceptors]
  rw [hseen, hseen, h.seen]

omit [Foundation] in
theorem invalids_of_trace {w w' : World} {m : ManagerId} {k : LoadId} {hooks : List Hook}
    (h : w'.trace = w.trace ++ hooks.map fun hook => (m, k, hook)) :
    w'.invalids = w.invalids + hooks.count .tokenInvalid := by
  rw [invalids, h, List.countP_append, List.countP_map, invalids]
  rfl

omit [Foundation] in
theorem invalids_leave (m : ManagerId) (k : LoadId) {x : Effects} (w : World) :
    (w.leave m k x).invalids = w.invalids + x.trace.count .tokenInvalid :=
  invalids_of_trace (leave_trace ..)

omit [Foundation] in
theorem invalids_eq_of_trace {w w' : World} {m : ManagerId} {k : LoadId} {hooks : List Hook}
    (h : w'.trace = w.trace ++ hooks.map fun hook => (m, k, hook)) (hn : Hook.tokenInvalid ∉ hooks) :
    w'.invalids = w.invalids := by
  rw [invalids_of_trace h, List.count_eq_zero.2 hn, Nat.add_zero]

omit [Foundation] in
/-- Opening a load says nothing of the token. -/
theorem invalids_opened (m : ManagerId) (success fail : Option Block) (w : World) :
    (w.opened m success fail).invalids = w.invalids := by
  have ht : (w.opened m success fail).trace = w.trace ++
      [Hook.called success fail].map fun hook => (m, w.loads, hook) := rfl
  exact invalids_eq_of_trace ht (by simp)

/-- A load that asks a validator that is not there says that the token is invalid. -/
theorem load_invalid {c : Context} (hnone : c.validator = none) (m : ManagerId)
    (params : Option NSDictionary) (success fail : Option Block) (w : World)
    (hcall : c.shouldCallAPIWithParams (paramsOf c params) = true) :
    ∃ r, w.loadDataWithParams c m params success fail = some r ∧ r.1.invalids = w.invalids + 1 := by
  have hans : c.isCorrectWithParamsData (paramsOf c params) = .needAccessToken := by
    rw [Context.isCorrectWithParamsData, hnone]
    rfl
  rw [loadDataWithParams_eq, if_pos hcall, hans, if_neg (by decide)]
  refine ⟨_, rfl, ?_⟩
  rw [invalids_leave, failed_trace, invalids_opened]
  rfl

/-- So does a success, whose response has a content. -/
theorem successed_invalid {c : Context} (hnone : c.validator = none) (m : ManagerId) (k : LoadId)
    {response : RCURLResponse} {content : Json} (hc : response.content = some content) (w : World) :
    ∃ x, successedOnCallingAPI c m k response (w.enter m) = some x ∧
      (w.leave m k x).invalids = w.invalids + 1 := by
  have hans : c.isCorrectWithCallBackData response.content = .needAccessToken := by
    rw [Context.isCorrectWithCallBackData, hnone]
    rfl
  have hraw : rawDataOf response = some (.content content) := by simp only [rawDataOf, hc]
  simp only [successedOnCallingAPI, hraw, Option.bind_some, hans]
  rw [if_neg (by decide)]
  refine ⟨_, rfl, ?_⟩
  rw [invalids_leave, failed_trace]
  rfl

/-- A step that asks a validator that is not there says that the token is invalid. -/
theorem invalid_of_asked {w : World} {p : NeutralStep} (hnone : p.given.validator = none)
    (hask : AsksValidator p.given p.event w) :
    ∃ u, stepGiven w p = some u ∧ u.invalids = w.invalids + 1 := by
  unfold stepGiven
  rcases hask with ⟨m, params, hload, hcall⟩ | ⟨hev, t, handler, responseObject, error, rest, hq, herr⟩
  · cases hev : p.event with
    | loadData m' =>
      rw [hev] at hload
      obtain ⟨rfl, rfl⟩ := Prod.mk.inj (Option.some.inj hload)
      obtain ⟨r, hr, hcount⟩ := load_invalid hnone m' p.given.paramsForApi none none w hcall
      exact ⟨r.1, by simp only [step, loadData, hr, Option.map_some], hcount⟩
    | loadDataWithBlocks m' params' success fail =>
      rw [hev] at hload
      obtain ⟨rfl, rfl⟩ := Prod.mk.inj (Option.some.inj hload)
      obtain ⟨r, hr, hcount⟩ := load_invalid hnone m' params' success fail
        (w.modifyManager m' fun s => { s with successBlock := success, failBlock := fail }) hcall
      exact ⟨r.1, by simp only [step, loadDataWithBlocks, hr, Option.map_some], hcount⟩
    | _ => rw [hev] at hload; cases hload
  · simp only [hev, step, hq, runBlock]
    rw [completionHandler_succeeded _ _ herr]
    -- the response of a request always has a content, so nothing raises before the question
    have hcontent : ({ w with mainQueue := rest }.responseFor t handler responseObject error).content =
        some (contentFor handler responseObject error) := rfl
    obtain ⟨x, hx, hcount⟩ := successed_invalid hnone handler.manager handler.load hcontent
      ({ w with mainQueue := rest }.completed t)
    exact ⟨_, by rw [hx, Option.map_some], hcount.trans rfl⟩

omit [Foundation] in
/-- That a token is invalid is seen by others. -/
theorem invalid_mem_seenOf {hooks : List Hook} :
    Hook.tokenInvalid ∈ seenOf hooks ↔ Hook.tokenInvalid ∈ hooks := by
  simp [seenOf, Hook.isInterceptors]

omit [Foundation] in
theorem invalid_not_mem_successHooks (c : Context) (response : RCURLResponse) :
    Hook.tokenInvalid ∉ successHooks c response := by
  rw [← invalid_mem_seenOf, seenOf_successHooks]
  split <;> simp

omit [Foundation] in
theorem invalid_not_mem_failMarks {c : Context} {response : Option RCURLResponse}
    {errorType : RCAPIManagerErrorType} (h : errorType ≠ .needAccessToken) :
    Hook.tokenInvalid ∉ failMarks c response errorType := by
  unfold failMarks
  split_ifs <;> simp

omit [Foundation] in
theorem invalid_not_mem_failHooks (c : Context) (response : Option RCURLResponse)
    (block : Option Block) : Hook.tokenInvalid ∉ failHooks c response block := by
  rw [← invalid_mem_seenOf, seenOf_failHooks]
  simp

/-- A success whose content no validator objects to says nothing of the token. -/
theorem successed_valid {c : Context} (hans : ∀ content, c.isCorrectWithCallBackData content = .noError)
    {m : ManagerId} {k : LoadId} {response : RCURLResponse} {w : World} {x : Effects}
    (hx : successedOnCallingAPI c m k response (w.enter m) = some x) :
    (w.leave m k x).invalids = w.invalids := by
  obtain ⟨rawData, -, ⟨-, cacheCenter, -, rfl⟩ | ⟨hne, -⟩⟩ := successed_cases hx
  · rw [invalids_leave, performSuccess_trace]
    exact congrArg _ (List.count_eq_zero.2 (invalid_not_mem_successHooks c response))
  · exact absurd (hans _) hne

omit [Foundation] in
theorem failed_valid {c : Context} {m : ManagerId} {k : LoadId} {response : Option RCURLResponse}
    {errorType : RCAPIManagerErrorType} (h : errorType ≠ .needAccessToken) (w : World) :
    (w.leave m k (failedOnCallingAPI c m k response errorType (w.enter m))).invalids = w.invalids := by
  rw [invalids_leave, failed_trace]
  exact congrArg _ (List.count_eq_zero.2 (invalid_not_mem_failMarks h))

/-- With a validator that finds no error no step says that the token is invalid. -/
theorem valid_step {c : Context} (hparams : ∀ params, c.isCorrectWithParamsData params = .noError)
    (hdata : ∀ content, c.isCorrectWithCallBackData content = .noError) {w w' : World} {ev : Event}
    (h : Act c w ev w') : w'.invalids = w.invalids := by
  cases h with
  | load hev hcase =>
    obtain ⟨managers, rfl⟩ := hev.frame
    cases hcase with
    | notCalled => rfl
    | rejected _ herr => exact absurd (hparams _) herr
    | cached _ _ _ hx => exact (successed_valid hdata hx).trans (invalids_opened ..)
    | started =>
      refine (invalids_eq_of_trace (startRequest_trace ..) fun hm => ?_).trans (invalids_opened ..)
      cases mem_hookIf hm
    | unreachable _ _ _ hreach =>
      refine (failed_valid (by decide) _).trans ?_
      unfold isReachable
      rw [if_pos hreach]
      exact invalids_opened ..
  | completion hq hcase =>
    cases hcase with
    | failed herr =>
      refine (failed_valid ?_ _).trans rfl
      unfold errorTypeForStatus
      dsimp only
      split_ifs <;> decide
    | succeeded herr hx => exact (successed_valid hdata hx).trans rfl
  | @success m k response rest hq =>
    have ht : ({ w with mainQueue := rest }.notifySuccess c m k).trace = w.trace ++
        [Hook.didSuccess c.hasDelegate (w.managers m).successBlock].map fun hook => (m, k, hook) := rfl
    exact invalids_eq_of_trace ht (by simp)
  | failed hq => exact invalids_eq_of_trace rfl (invalid_not_mem_failHooks c _ _)
  | touch ht =>
    obtain ⟨managers, rfl⟩ := ht.frame
    rfl
  | _ => rfl

/-- A step with a validator that finds no error does not say that the token is invalid. -/
theorem valid_of_neutral {w u : World} {p : NeutralStep} {v : RCAPIManagerValidator}
    (hsome : p.validator = some v) (hv : v.FindsNoError) (hs : stepNeutral w p = some u) :
    u.invalids = w.invalids := by
  refine valid_step (fun params => ?_) (fun content => ?_) (act_of_step hs)
  · change p.neutral.isCorrectWithParamsData params = .noError
    rw [Context.isCorrectWithParamsData, NeutralStep.neutral, hsome]
    exact hv.2 params
  · change p.neutral.isCorrectWithCallBackData content = .noError
    rw [Context.isCorrectWithCallBackData, NeutralStep.neutral, hsome]
    exact hv.1 content

/-- **Where a replaced validator is asked, the runs part.** -/
theorem parts_of_asked {w w' : World} {p : NeutralStep} (h : Alike w w') (hc : ¬ ValidatorKept w p) :
    ¬ Option.Rel SameSeen (stepGiven w p) (stepNeutral w' p) := by
  rw [ValidatorKept, Classical.not_imp] at hc
  obtain ⟨hask, hne⟩ := hc
  obtain ⟨hnone, v, hsome, hv⟩ := p.validator_neutral.resolve_left hne
  obtain ⟨u, hu, hcount⟩ := invalid_of_asked hnone hask
  intro hrel
  rw [hu] at hrel
  cases hst : stepNeutral w' p with
  | none => rw [hst] at hrel; cases hrel
  | some u' =>
    rw [hst] at hrel
    cases hrel with
    | some hsame =>
      have h1 := hsame.invalids
      have h2 := valid_of_neutral hsome hv hst
      have h3 := h.sameSeen.invalids
      omega

/-! ## Whole runs -/

/-- **Two runs, one with neutral collaborators in place of some that are not set, send the
same requests, write the same caches and notify alike throughout exactly when no validator
that was replaced is asked.** -/
theorem neutral_iff (ps : List NeutralStep) (w : World) :
    (∀ n, Option.Rel SameSeen (exec stepGiven w (ps.take n)) (exec stepNeutral w (ps.take n))) ↔
      ∀ q ∈ visited stepGiven w ps, ValidatorKept q.1 q.2 := by
  have hkept : ∀ v v' p, Alike v v' → ValidatorKept v p →
      Option.Rel Alike (stepGiven v p) (stepNeutral v' p) := fun _ _ _ h hc => alike_step h hc
  have hparts : ∀ v v' p, Alike v v' → ¬ ValidatorKept v p →
      ¬ Option.Rel SameSeen (stepGiven v p) (stepNeutral v' p) := fun _ _ _ h hc => parts_of_asked h hc
  exact exec_rel_iff (fun _ _ h => h.sameSeen) hkept hparts ps w w (.refl w)

end Steps

end World

namespace World

/-- A load of a manager without a validator, and of the same with one that finds no error. -/
def unvalidated : NeutralStep where
  given := { Context.plain .noCache with validator := none }
  event := .loadData 0
  validator := some ⟨fun _ => .noError, fun _ => .noError⟩
  interceptor := none
  validator_neutral := Or.inr ⟨rfl, _, rfl, fun _ => rfl, fun _ => rfl⟩
  interceptor_neutral := Or.inl rfl

/-- **A manager without a validator sends nothing** and says that its token is invalid; with
one that finds no error it sends its request. -/
theorem unset_validator_fails :
    ∃ u u', stepGiven init unvalidated = some u ∧ stepNeutral init unvalidated = some u' ∧
      u.proxy.tasks.length = 0 ∧ u.trace = [(0, 0, .called none none), (0, 0, .tokenInvalid)] ∧
      u'.proxy.tasks.length = 1 ∧ u'.trace = [(0, 0, .called none none)] ∧ ¬ SameSeen u u' := by
  refine ⟨_, _, rfl, rfl, rfl, rfl, rfl, rfl, fun h => ?_⟩
  have := congrArg (fun proxy : RCApiProxy => proxy.tasks.length) h.proxy
  exact absurd this (by decide)

end World

end RCSdk
