import RCSdk.Spec.ApiProxy
import RCSdk.Spec.CacheCenter

/-!
# The base manager (`RCAPIBaseManager.m`): what it holds and how a load ends

A method is a function of the manager's fields and the cache center; what it puts on the
main queue and the hooks it calls are collected on the way (`Effects`). What the manager
reads from outside at a moment (its collaborators and settings, the clock, the network) is
a `Context`, given anew at every step of a run, so that nothing is assumed to stay as it is.
-/

namespace RCSdk

/-- `RCAPIManagerValidator`. -/
structure RCAPIManagerValidator where
  isCorrectWithCallBackData : Option Json → RCAPIManagerErrorType
  isCorrectWithParamsData : NSDictionary → RCAPIManagerErrorType

/-- `RCAPIManagerInterceptor`, by the optional methods it implements. `isManager` says
whether the interceptor is the manager itself. -/
structure RCAPIManagerInterceptor where
  isManager : Bool
  didReceiveResponse : Bool
  beforePerformSuccess : Option (RCURLResponse → Bool)
  afterPerformSuccess : Bool
  beforePerformFail : Option (Option RCURLResponse → Bool)
  afterPerformFail : Bool
  shouldCallAPI : Option (NSDictionary → Bool)
  afterCallingAPI : Bool

/-- Where `reformParams:` is implemented: nowhere but in the base class, in a subclass of
the manager, or in a child that is another object. -/
inductive ReformParams where
  | inherited
  | overridden (reform : Option NSDictionary → Option NSDictionary)
  | ofChild (reform : Option NSDictionary → Option NSDictionary)

/-- **What a manager finds outside itself at one moment.** -/
structure Context where
  now : ℚ
  isReachable : Bool
  serviceIdentifier : String
  methodName : String
  reformParams : ReformParams
  service : RCService
  hasDelegate : Bool
  paramSource : Option (Option NSDictionary)
  validator : Option RCAPIManagerValidator
  interceptor : Option RCAPIManagerInterceptor
  cachePolicy : RCAPIManagerCachePolicy
  shouldIgnoreCache : Bool
  memoryCacheSecond : ℚ
  diskCacheSecond : ℚ

/-- A manager with a connection, a service that passes on what it is given, no interceptor
and a validator that finds no error. -/
def Context.plain (cachePolicy : RCAPIManagerCachePolicy) : Context where
  now := 0
  isReachable := true
  serviceIdentifier := "service"
  methodName := "method"
  reformParams := .inherited
  service := .plain (some (.held 0))
  hasDelegate := true
  paramSource := none
  validator := some ⟨fun _ => .noError, fun _ => .noError⟩
  interceptor := none
  cachePolicy := cachePolicy
  shouldIgnoreCache := false
  memoryCacheSecond := 60
  diskCacheSecond := 60

/-- What `fetchedRawData` may hold. -/
inductive RawData where
  | content (j : Json)
  | data (d : NSData)

/-- A success or fail block, by identity. -/
abbrev Block := ℕ

/-- The fields of `RCAPIBaseManager` that its methods write. -/
structure RCAPIBaseManager where
  fetchedRawData : Option RawData
  isLoading : Bool
  errorMessage : Option String
  errorType : RCAPIManagerErrorType
  requestIdList : List ℤ
  successBlock : Option Block
  failBlock : Option Block
  response : Option RCURLResponse

/-- `init`. -/
def RCAPIBaseManager.init : RCAPIBaseManager where
  fetchedRawData := none
  isLoading := false
  errorMessage := none
  errorType := .default
  requestIdList := []
  successBlock := none
  failBlock := none
  response := none

/-- What a load does that can be seen from outside, or that decides how it ends. The
notifications carry whether the delegate was called and which block was. -/
inductive Hook where
  | called (success fail : Option Block)
  | afterCallingAPI
  | didReceiveResponse
  | beforePerformSuccess
  | afterPerformSuccess
  | beforePerformFail
  | afterPerformFail
  | vetoed
  | didSuccess (delegate : Bool) (block : Option Block)
  | didFailed (delegate : Bool) (block : Option Block)
  | tokenIllegal
  | tokenInvalid
  | swallowed
  deriving DecidableEq, Repr

/-- A block of the main queue: the completion of a task, or a notification of a load. A
success block captures only its manager: the response it carries here is the one it
belongs to, for the statements. -/
inductive MainBlock where
  | completion (t : TaskRef) (handler : CompletionHandler)
      (responseObject : Option ResponseObject) (error : Option NSError)
  | success (m : ManagerId) (k : LoadId) (response : RCURLResponse)
  | failed (m : ManagerId) (k : LoadId) (response : Option RCURLResponse)

/-- What a method works on and leaves behind. -/
structure Effects where
  self : RCAPIBaseManager
  cacheCenter : RCCacheCenter
  blocks : List MainBlock
  trace : List Hook

/-! ## Asking the collaborators -/

namespace Context

variable (c : Context)

/-- `[self.validator manager:self isCorrectWithParamsData:params]`. -/
def isCorrectWithParamsData (params : NSDictionary) : RCAPIManagerErrorType :=
  match c.validator with
  | some validator => validator.isCorrectWithParamsData params
  | none => .ofNil

/-- `[self.validator manager:self isCorrectWithCallBackData:content]`. -/
def isCorrectWithCallBackData (content : Option Json) : RCAPIManagerErrorType :=
  match c.validator with
  | some validator => validator.isCorrectWithCallBackData content
  | none => .ofNil

/-- The interceptor the manager's own hooks forward to: itself it does not ask. -/
def otherInterceptor : Option RCAPIManagerInterceptor :=
  c.interceptor.filter fun i => !i.isManager

/-- `shouldCallAPIWithParams:`. -/
def shouldCallAPIWithParams (params : NSDictionary) : Bool :=
  match c.otherInterceptor.bind (·.shouldCallAPI) with
  | some answer => answer params
  | none => true

/-- The answer of `beforePerformSuccessWithResponse:`. -/
def beforePerformSuccess (response : RCURLResponse) : Bool :=
  match c.otherInterceptor.bind (·.beforePerformSuccess) with
  | some answer => answer response
  | none => true

/-- The answer of `beforePerformFailWithResponse:`. -/
def beforePerformFail (response : Option RCURLResponse) : Bool :=
  match c.otherInterceptor.bind (·.beforePerformFail) with
  | some answer => answer response
  | none => true

/-- The hook, if the interceptor implements the method. -/
def hookIf (implemented : RCAPIManagerInterceptor → Bool) (i : Option RCAPIManagerInterceptor)
    (hook : Hook) : List Hook :=
  if (i.map implemented).getD false then [hook] else []

/-- `reformParams:`. -/
def reformedParams (params : Option NSDictionary) : Option NSDictionary :=
  match c.reformParams with
  | .inherited => params
  | .overridden reform => reform params
  | .ofChild reform =>
    match reform params with
    | some result => some result
    | none => params

/-- The params `loadData` asks its source for. -/
def paramsForApi : Option NSDictionary :=
  match c.paramSource with
  | some params => params
  | none => none

end Context

/-! ## Small methods -/

/-- `removeRequestIdWithRequestID:` on the list. The loop keeps the last equal id;
`removeObject:` then removes every object equal to it. -/
def removeRequestIdWithRequestID (requestId : ℤ) (requestIdList : List ℤ) : List ℤ :=
  let requestIDToRemove := requestIdList.foldl
    (fun r storedRequestId => if storedRequestId = requestId then some storedRequestId else r) none
  match requestIDToRemove with
  | some r => requestIdList.filter (· ≠ r)
  | none => requestIdList

/-- The getter `isLoading`: what it answers. -/
def RCAPIBaseManager.getIsLoading (s : RCAPIBaseManager) : Bool :=
  if s.requestIdList.length = 0 then false else s.isLoading

/-- The messages of the regular errors. -/
def errorMessageFor (errorType : RCAPIManagerErrorType) (errorMessage : Option String) :
    Option String :=
  let m := errorMessage
  let m := if errorType = .noNetWork then some "无网络连接，请检查网络" else m
  let m := if errorType = .timeout then some "请求超时" else m
  let m := if errorType = .canceled then some "您已取消" else m
  if errorType = .downGrade then some "网络拥塞" else m

/-- The error type the fail callback of a load gives a response status. -/
def errorTypeForStatus (status : RCURLResponseStatus) : RCAPIManagerErrorType :=
  let errorType := RCAPIManagerErrorType.default
  let errorType := if status = .errorCancel then .canceled else errorType
  let errorType := if status = .errorTimeout then .timeout else errorType
  if status = .errorNoNetwork then .noNetWork else errorType

/-- `response.requestId`, zero for no response. -/
def requestIdOf (response : Option RCURLResponse) : ℤ :=
  match response with
  | some r => r.requestId
  | none => 0

/-! ## The two endings -/

/-- `failedOnCallingAPI:withErrorType:` for load `k` of manager `m`. -/
def failedOnCallingAPI (c : Context) (m : ManagerId) (k : LoadId) (response : Option RCURLResponse)
    (errorType : RCAPIManagerErrorType) (x : Effects) : Effects :=
  -- the flag is cleared whatever else is on its way; a response is replaced, never cleared
  let self := { x.self with isLoading := false }
  let self :=
    match response with
    | some r => { self with response := some r }
    | none => self
  let self := { self with
    errorType
    requestIdList := removeRequestIdWithRequestID (requestIdOf response) self.requestIdList }
  let x := { x with self }
  if errorType = .needLogin then { x with trace := x.trace ++ [.tokenIllegal] }
  else if errorType = .needAccessToken then { x with trace := x.trace ++ [.tokenInvalid] }
  else
    let shouldContinue := c.service.handleCommonErrorWithResponse response errorType
    if shouldContinue = false then { x with trace := x.trace ++ [.swallowed] }
    else
      { x with
        self := { x.self with errorMessage := errorMessageFor errorType x.self.errorMessage }
        blocks := x.blocks ++ [.failed m k response] }

section Success

variable [Foundation]

/-- The saves of `successedOnCallingAPI:`. -/
def saveResponse (c : Context) (response : RCURLResponse) (cacheCenter : RCCacheCenter) :
    Option RCCacheCenter :=
  if c.cachePolicy ≠ .noCache ∧ response.isCache = false then
    let saved :=
      if c.cachePolicy.has .memory then
        cacheCenter.saveMemoryCache c.now response c.serviceIdentifier c.methodName
          c.memoryCacheSecond
      else some cacheCenter
    saved.map fun cacheCenter =>
      if c.cachePolicy.has .disk then
        cacheCenter.saveDiskCache c.now response c.serviceIdentifier c.methodName c.diskCacheSecond
      else cacheCenter
  else some cacheCenter

/-- What `successedOnCallingAPI:` fetches from a response; `none` when that raises. -/
def rawDataOf (response : RCURLResponse) : Option RawData :=
  match response.content with
  | some content => some (.content content)
  | none => response.getResponseData.map .data

/-- The part of `successedOnCallingAPI:` behind a validator that found no error. -/
def performSuccess (c : Context) (m : ManagerId) (k : LoadId) (response : RCURLResponse)
    (x : Effects) : Effects :=
  let x : Effects := { x with
    trace := x.trace ++ Context.hookIf (·.didReceiveResponse) c.interceptor .didReceiveResponse }
  -- `beforePerformSuccessWithResponse:` sets the error type before it asks
  let x : Effects := { x with
    self := { x.self with errorType := .success }
    trace := x.trace ++
      Context.hookIf (·.beforePerformSuccess.isSome) c.otherInterceptor .beforePerformSuccess }
  let x : Effects :=
    if c.beforePerformSuccess response then
      { x with blocks := x.blocks ++ [.success m k response] }
    else { x with trace := x.trace ++ [.vetoed] }
  { x with
    trace := x.trace ++
      Context.hookIf (·.afterPerformSuccess) c.otherInterceptor .afterPerformSuccess }

/-- `successedOnCallingAPI:` for load `k` of manager `m`; `none` when it raises. -/
def successedOnCallingAPI (c : Context) (m : ManagerId) (k : LoadId) (response : RCURLResponse)
    (x : Effects) : Option Effects :=
  (rawDataOf response).bind fun fetchedRawData =>
  let self := { x.self with
    isLoading := false
    response := some response
    fetchedRawData := some fetchedRawData
    requestIdList := removeRequestIdWithRequestID response.requestId x.self.requestIdList }
  let x := { x with self }
  -- everything above stays as it is when the validator finds an error
  let errorType := c.isCorrectWithCallBackData response.content
  if errorType = .noError then
    (saveResponse c response x.cacheCenter).map fun cacheCenter =>
      performSuccess c m k response { x with cacheCenter }
  else some (failedOnCallingAPI c m k (some response) errorType x)

end Success

end RCSdk
