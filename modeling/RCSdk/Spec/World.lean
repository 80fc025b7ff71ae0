import RCSdk.Spec.BaseManager

/-!
# The whole networking layer, step by step

Any number of managers share one proxy, one cache center and one main queue. A run is a
sequence of events, each with the context the acting manager finds: calls of a manager,
sessions ending tasks, and the main queue running its first block. A block on the main
queue runs to its end before anything else happens. An event that raises has no successor.
-/

namespace RCSdk

variable [Foundation]

/-- The state of the layer. `loads` counts the load calls so far and numbers the next one;
`trace` lists what the loads did, oldest first. -/
structure World where
  proxy : RCApiProxy
  cacheCenter : RCCacheCenter
  managers : ManagerId → RCAPIBaseManager
  mainQueue : List MainBlock
  loads : LoadId
  trace : List (ManagerId × LoadId × Hook)

namespace World

/-- A launch that finds these caches. -/
def launch (cacheCenter : RCCacheCenter) : World where
  proxy := .init
  cacheCenter := cacheCenter
  managers := fun _ => .init
  mainQueue := []
  loads := 0
  trace := []

/-- A launch that finds empty caches. -/
def init : World := launch .init

/-- Changes the fields of manager `m`. -/
def modifyManager (m : ManagerId) (f : RCAPIBaseManager → RCAPIBaseManager) (w : World) : World :=
  { w with managers := Function.update w.managers m (f (w.managers m)) }

/-- Notes what load `k` of manager `m` did. -/
def note (m : ManagerId) (k : LoadId) (hooks : List Hook) (w : World) : World :=
  { w with trace := w.trace ++ hooks.map fun hook => (m, k, hook) }

/-- What a method of manager `m` starts from. -/
def enter (m : ManagerId) (w : World) : Effects :=
  { self := w.managers m, cacheCenter := w.cacheCenter, blocks := [], trace := [] }

/-- The world after a method of manager `m`, called for load `k`, left `x`. -/
def leave (m : ManagerId) (k : LoadId) (x : Effects) (w : World) : World :=
  note m k x.trace { w with
    managers := Function.update w.managers m x.self
    cacheCenter := x.cacheCenter
    mainQueue := w.mainQueue ++ x.blocks }

/-- The cache lookup of `loadDataWithParams:`: memory first, then disk, each if the policy
has its bit and the cache is not to be ignored. -/
def cachedResponse (c : Context) (params : NSDictionary) (cacheCenter : RCCacheCenter) :
    Option (RCCacheCenter × Option RCURLResponse) :=
  let response : Option RCURLResponse := none
  let (cacheCenter, response) :=
    if c.cachePolicy.has .memory ∧ c.shouldIgnoreCache = false then
      cacheCenter.fetchMemoryCache c.now c.serviceIdentifier c.methodName params
    else (cacheCenter, response)
  -- the disk's answer replaces the memory's, whatever that was
  if c.cachePolicy.has .disk ∧ c.shouldIgnoreCache = false then
    cacheCenter.fetchDiskCache c.now c.serviceIdentifier c.methodName params
  else some (cacheCenter, response)

/-- The getter `isReachable` of manager `m`. -/
def isReachable (c : Context) (m : ManagerId) (w : World) : Bool × World :=
  (c.isReachable,
    if c.isReachable = false then w.modifyManager m fun s => { s with errorType := .noNetWork }
    else w)

/-- The network branch of `loadDataWithParams:`. -/
def startRequest (c : Context) (m : ManagerId) (k : LoadId) (params : NSDictionary) (w : World) :
    World × ℤ :=
  let w := w.modifyManager m fun s => { s with isLoading := true }
  let request : NSURLRequest := ⟨c.service, some params⟩
  let (requestId, proxy) := w.proxy.callApiWithRequest ⟨m, k, request⟩
  let w := { w with proxy }
  let w := w.modifyManager m fun s => { s with requestIdList := s.requestIdList ++ [requestId] }
  (w.note m k (Context.hookIf (·.afterCallingAPI) c.otherInterceptor .afterCallingAPI), requestId)

/-- `loadDataWithParams:` of manager `m`, called with these blocks (none for a plain load). -/
def loadDataWithParams (c : Context) (m : ManagerId) (params : Option NSDictionary)
    (success fail : Option Block) (w : World) : Option (World × ℤ) :=
  let k := w.loads
  let w := { w with loads := k + 1 }
  let reformedParams := (c.reformedParams params).getD .empty
  if c.shouldCallAPIWithParams reformedParams then
    let w := w.note m k [.called success fail]
    let errorType := c.isCorrectWithParamsData reformedParams
    if errorType = .noError then
      (cachedResponse c reformedParams w.cacheCenter).bind fun (cacheCenter, response) =>
        let w := { w with cacheCenter }
        match response with
        | some response =>
          -- a hit ends the load inside the call, which returns 0
          (successedOnCallingAPI c m k response (w.enter m)).map fun x => (w.leave m k x, 0)
        | none =>
          let (reachable, w) := w.isReachable c m
          if reachable then some (w.startRequest c m k reformedParams)
          else some (w.leave m k (failedOnCallingAPI c m k none .noNetWork (w.enter m)), 0)
    else some (w.leave m k (failedOnCallingAPI c m k none errorType (w.enter m)), 0)
  else some (w, 0)

/-- `loadData`. -/
def loadData (c : Context) (m : ManagerId) (w : World) : Option (World × ℤ) :=
  w.loadDataWithParams c m c.paramsForApi none none

/-- `loadDataWithParams:success:fail:`. -/
def loadDataWithBlocks (c : Context) (m : ManagerId) (params : Option NSDictionary)
    (success fail : Option Block) (w : World) : Option (World × ℤ) :=
  let w := w.modifyManager m fun s => { s with successBlock := success, failBlock := fail }
  w.loadDataWithParams c m params success fail

/-- The completion handler of task `t`, down to the callback of the load. -/
def completionHandler (c : Context) (t : TaskRef) (handler : CompletionHandler)
    (responseObject : Option ResponseObject) (error : Option NSError) (w : World) : Option World :=
  let requestID := (w.proxy.tasks[t]?.map (·.taskIdentifier)).getD 0
  let w := { w with proxy := w.proxy.complete t }
  let (result, error) :=
    handler.request.service.resultWithResponseObject responseObject error
  -- `error` is from here on what the service left in it
  let response := RCURLResponse.initWithResponseString result.responseString requestID
    handler.request result.responseObject error
  let m := handler.manager
  let k := handler.load
  match error with
  | some _ =>
    some (w.leave m k
      (failedOnCallingAPI c m k (some response) (errorTypeForStatus response.status) (w.enter m)))
  | none => (successedOnCallingAPI c m k response (w.enter m)).map fun x => w.leave m k x

/-- The success block of load `k`. -/
def notifySuccess (c : Context) (m : ManagerId) (k : LoadId) (w : World) : World :=
  w.note m k [.didSuccess c.hasDelegate (w.managers m).successBlock]

/-- The fail block of load `k`. -/
def notifyFailed (c : Context) (m : ManagerId) (k : LoadId) (response : Option RCURLResponse)
    (w : World) : World :=
  w.note m k <|
    Context.hookIf (·.didReceiveResponse) c.interceptor .didReceiveResponse ++
    Context.hookIf (·.beforePerformFail.isSome) c.otherInterceptor .beforePerformFail ++
    [.didFailed (c.beforePerformFail response && c.hasDelegate) (w.managers m).failBlock] ++
    Context.hookIf (·.afterPerformFail) c.otherInterceptor .afterPerformFail

/-- The main queue runs one block. -/
def runBlock (c : Context) : MainBlock → World → Option World
  | .completion t handler responseObject error, w =>
    w.completionHandler c t handler responseObject error
  | .success m k _, w => some (w.notifySuccess c m k)
  | .failed m k response, w => some (w.notifyFailed c m k response)

/-- What a task that ends hands to its completion handler: what the session reports, or the
cancellation. -/
def outcomeOf (task : NSURLSessionDataTask) (responseObject : Option ResponseObject)
    (error : Option NSError) : Option ResponseObject × Option NSError :=
  if task.state = .canceling then (none, some ⟨NSURLErrorCancelled⟩) else (responseObject, error)

/-- The session ends task `t`, unless it has ended already. -/
def finish (t : TaskRef) (responseObject : Option ResponseObject) (error : Option NSError)
    (w : World) : World :=
  match w.proxy.tasks[t]? with
  | some task =>
    if task.isActive then
      let (responseObject, error) := outcomeOf task responseObject error
      { w with
        proxy := w.proxy.finish t
        mainQueue := w.mainQueue ++ [.completion t task.handler responseObject error] }
    else w
  | none => w

/-- `cancelAllRequests`. -/
def cancelAllRequests (m : ManagerId) (w : World) : World :=
  let w := { w with
    proxy := w.proxy.cancelRequestWithRequestIDList (w.managers m).requestIdList }
  w.modifyManager m fun s => { s with requestIdList := [] }

/-- `cancelRequestWithRequestId:`. -/
def cancelRequestWithRequestId (m : ManagerId) (requestID : ℤ) (w : World) : World :=
  let w := w.modifyManager m fun s =>
    { s with requestIdList := removeRequestIdWithRequestID requestID s.requestIdList }
  { w with proxy := w.proxy.cancelRequestWithRequestID requestID }

/-- `cleanData`. -/
def cleanData (m : ManagerId) (w : World) : World :=
  w.modifyManager m fun s => { s with fetchedRawData := none, errorType := .default }

/-- The getter `isLoading`, which may clear the field it reads. -/
def readIsLoading (m : ManagerId) (w : World) : World :=
  w.modifyManager m fun s => { s with isLoading := s.getIsLoading }

/-- The events of a run. -/
inductive Event where
  | loadData (m : ManagerId)
  | loadDataWithBlocks (m : ManagerId) (params : Option NSDictionary) (success fail : Option Block)
  | finish (t : TaskRef) (responseObject : Option ResponseObject) (error : Option NSError)
  | runMain
  | cancelAllRequests (m : ManagerId)
  | cancelRequestWithRequestId (m : ManagerId) (requestID : ℤ)
  | cleanData (m : ManagerId)
  | isReachable (m : ManagerId)
  | isLoading (m : ManagerId)
  | cleanAllMemoryCache
  | cleanAllDiskCache
  | evict (key : String)

/-- An event, with what the acting manager finds outside itself. -/
structure Step where
  context : Context
  event : Event

/-- **One step**; `none` when it raises. -/
def step (w : World) (s : Step) : Option World :=
  match s.event with
  | .loadData m => (w.loadData s.context m).map Prod.fst
  | .loadDataWithBlocks m params success fail =>
    (w.loadDataWithBlocks s.context m params success fail).map Prod.fst
  | .finish t responseObject error => some (w.finish t responseObject error)
  | .runMain =>
    match w.mainQueue with
    | block :: rest => runBlock s.context block { w with mainQueue := rest }
    | [] => some w
  | .cancelAllRequests m => some (w.cancelAllRequests m)
  | .cancelRequestWithRequestId m requestID => some (w.cancelRequestWithRequestId m requestID)
  | .cleanData m => some (w.cleanData m)
  | .isReachable m => some (w.isReachable s.context m).2
  | .isLoading m => some (w.readIsLoading m)
  | .cleanAllMemoryCache => some { w with cacheCenter := w.cacheCenter.cleanAllMemoryCache }
  | .cleanAllDiskCache => some { w with cacheCenter := w.cacheCenter.cleanAllDiskCache }
  | .evict key => some { w with cacheCenter := w.cacheCenter.evict key }

end World

end RCSdk
