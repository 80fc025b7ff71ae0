import RCSdk.Spec.Response
import Mathlib.Logic.Function.Basic
import Mathlib.Data.List.Basic

/-!
# The API proxy (`RCApiProxy.m`)

The proxy starts a task for each request and remembers it in `dispatchTable`, under the
number its session gave it, so that a later cancel finds it. Sessions number their tasks
from 1, each on its own; a service without a session manager gets a new session on every
call. A task's completion handler runs later, as a block of the main queue.
-/

namespace RCSdk

/-- A manager, by identity. -/
abbrev ManagerId := ℕ

/-- A call of a load method: the `k`-th of the run. -/
abbrev LoadId := ℕ

/-- A task, by identity: its place among the tasks created so far. -/
abbrev TaskRef := ℕ

/-- Where a task is: running, cancelled while it ran, finished with its completion block on
the main queue, or past its completion handler. -/
inductive TaskState where
  | running
  | canceling
  | finished
  | completed
  deriving DecidableEq, Repr

/-- What a completion handler captures: the manager behind its callbacks, the load they
belong to, and the request. -/
structure CompletionHandler where
  manager : ManagerId
  load : LoadId
  request : NSURLRequest

/-- A task. `cancelSent` says whether `cancel` was ever sent to it. -/
structure NSURLSessionDataTask where
  session : SessionManager
  taskIdentifier : ℤ
  handler : CompletionHandler
  state : TaskState
  cancelSent : Bool

/-- `[task cancel]`: no effect on the completion of a task that has finished. -/
def NSURLSessionDataTask.cancel (t : NSURLSessionDataTask) : NSURLSessionDataTask :=
  { t with cancelSent := true, state := if t.state = .running then .canceling else t.state }

/-- The session still works on the task. -/
def NSURLSessionDataTask.isActive (t : NSURLSessionDataTask) : Bool :=
  t.state = .running || t.state = .canceling

/-- The task was started and has neither completed nor been cancelled. -/
def NSURLSessionDataTask.isLive (t : NSURLSessionDataTask) : Bool :=
  t.state ≠ .completed && !t.cancelSent

/-- The session ends a task: its completion block goes to the main queue. -/
def NSURLSessionDataTask.finish (t : NSURLSessionDataTask) : NSURLSessionDataTask :=
  { t with state := if t.isActive then .finished else t.state }

/-- The completion handler of a finished task has run. -/
def NSURLSessionDataTask.complete (t : NSURLSessionDataTask) : NSURLSessionDataTask :=
  { t with state := .completed }

/-- `RCApiProxy`, with the tasks and sessions it uses: every task created so far, how many
tasks each session has numbered, and how many sessions `[AFHTTPSessionManager manager]`
has built. -/
structure RCApiProxy where
  dispatchTable : ℤ → Option TaskRef
  tasks : List NSURLSessionDataTask
  numbered : SessionManager → ℤ
  made : ℕ

namespace RCApiProxy

def init : RCApiProxy := ⟨fun _ => none, [], fun _ => 0, 0⟩

/-- `sessionManagerWithService:`. -/
def sessionManagerWithService (service : RCService) (p : RCApiProxy) :
    SessionManager × RCApiProxy :=
  let sessionManager : Option SessionManager :=
    match service.sessionManager with
    | some answer => answer
    | none => none
  match sessionManager with
  | some s => (s, p)
  | none => (.made p.made, { p with made := p.made + 1 })

/-- `callApiWithRequest:success:fail:`, which returns the id of the task it starts. -/
def callApiWithRequest (handler : CompletionHandler) (p : RCApiProxy) : ℤ × RCApiProxy :=
  let (session, p) := p.sessionManagerWithService handler.request.service
  let requestId := p.numbered session + 1
  let dataTask : NSURLSessionDataTask :=
    { session, taskIdentifier := requestId, handler, state := .running, cancelSent := false }
  (requestId,
    { p with
      numbered := Function.update p.numbered session requestId
      -- an entry of the same number, of another session, is overwritten
      tasks := p.tasks ++ [dataTask]
      dispatchTable := Function.update p.dispatchTable requestId (some p.tasks.length) })

/-- `cancelRequestWithRequestID:`. -/
def cancelRequestWithRequestID (requestID : ℤ) (p : RCApiProxy) : RCApiProxy :=
  let p :=
    match p.dispatchTable requestID with
    | some requestOperation =>
      { p with tasks := p.tasks.modify requestOperation NSURLSessionDataTask.cancel }
    | none => p
  { p with dispatchTable := Function.update p.dispatchTable requestID none }

/-- `cancelRequestWithRequestIDList:`. -/
def cancelRequestWithRequestIDList (requestIDList : List ℤ) (p : RCApiProxy) : RCApiProxy :=
  requestIDList.foldl (fun p requestId => p.cancelRequestWithRequestID requestId) p

/-- The session ends task `t`. -/
def finish (t : TaskRef) (p : RCApiProxy) : RCApiProxy :=
  { p with tasks := p.tasks.modify t NSURLSessionDataTask.finish }

/-- The first lines of task `t`'s completion handler: its id leaves `dispatchTable`. -/
def complete (t : TaskRef) (p : RCApiProxy) : RCApiProxy :=
  match p.tasks[t]? with
  | some dataTask =>
    { p with
      dispatchTable := Function.update p.dispatchTable dataTask.taskIdentifier none
      tasks := p.tasks.modify t NSURLSessionDataTask.complete }
  | none => p

/-- What happens to the proxy: calls to it, a session ending a task, and the completion
handler of a finished task. -/
inductive Event where
  | callApiWithRequest (handler : CompletionHandler)
  | cancelRequestWithRequestID (requestID : ℤ)
  | cancelRequestWithRequestIDList (requestIDList : List ℤ)
  | finish (t : TaskRef)
  | complete (t : TaskRef)

/-- Whether the completion block of task `t` is waiting to run. -/
def isFinished (t : TaskRef) (p : RCApiProxy) : Bool :=
  (p.tasks[t]?.map fun dataTask => decide (dataTask.state = .finished)).getD false

/-- One event. A completion handler runs once, after its task has finished: the event has
no effect otherwise. -/
def step (p : RCApiProxy) : Event → Option RCApiProxy
  | .callApiWithRequest handler => some (p.callApiWithRequest handler).2
  | .cancelRequestWithRequestID requestID => some (p.cancelRequestWithRequestID requestID)
  | .cancelRequestWithRequestIDList requestIDList =>
    some (p.cancelRequestWithRequestIDList requestIDList)
  | .finish t => some (p.finish t)
  | .complete t => some (if p.isFinished t then p.complete t else p)

end RCApiProxy

end RCSdk
