import RCSdk.Spec.Foundation

/-!
# Requests, services and responses

The enumerations of `RCNetworkingDefines.h`, the service protocol
(`RCServiceProtocol.h`), requests with what `NSURLRequest+RCNetworkingMethods`
attaches to them, and `RCURLResponse`.
-/

namespace RCSdk

/-- `RCAPIManagerErrorType`. -/
inductive RCAPIManagerErrorType where
  | needAccessToken
  | needLogin
  | default
  | loginCanceled
  | success
  | noContent
  | paramsError
  | timeout
  | noNetWork
  | canceled
  | noError
  | downGrade
  deriving DecidableEq, Repr

/-- What a message to `nil` that returns an error type answers: the zero of the enumeration. -/
def RCAPIManagerErrorType.ofNil : RCAPIManagerErrorType := .needAccessToken

/-- `RCAPIManagerCachePolicy`, a set of bits. -/
abbrev RCAPIManagerCachePolicy := UInt64

def RCAPIManagerCachePolicy.noCache : RCAPIManagerCachePolicy := 0
def RCAPIManagerCachePolicy.memory : RCAPIManagerCachePolicy := (1 : UInt64) <<< 0
def RCAPIManagerCachePolicy.disk : RCAPIManagerCachePolicy := (1 : UInt64) <<< 1

/-- `policy & bit`, as a condition. -/
def RCAPIManagerCachePolicy.has (policy bit : RCAPIManagerCachePolicy) : Bool := policy &&& bit != 0

/-- `RCURLResponseStatus`. -/
inductive RCURLResponseStatus where
  | success
  | errorTimeout
  | errorCancel
  | errorNoNetwork
  deriving DecidableEq, Repr

/-- `RCURLResponse`. `responseData` is the stored value, which its getter may fill in. -/
structure RCURLResponse where
  status : RCURLResponseStatus
  contentString : Option NSObject
  content : Option Json
  requestId : ℤ
  originRequestParams : Option NSDictionary
  responseData : Option NSData
  isCache : Bool
  deriving Repr

/-- What AFNetworking hands to a completion handler: bytes, or an object already decoded. -/
inductive ResponseObject where
  | data (d : NSData)
  | object (j : Json)
  deriving Repr

/-- An `AFHTTPSessionManager`: one a service holds, or the `n`-th that
`[AFHTTPSessionManager manager]` has built. -/
inductive SessionManager where
  | held (n : ℕ)
  | made (n : ℕ)
  deriving DecidableEq, Repr

/-- The dictionary of `resultWithResponseObject:response:request:error:`, by its two keys. -/
structure ServiceResult where
  responseString : Option NSObject
  responseObject : Option Json
  deriving Repr

/-- A service, by what it answers. `sessionManager` is `none` when the optional method is
not implemented; `resultWithResponseObject` also gives the error it leaves in `*error`. -/
structure RCService where
  sessionManager : Option (Option SessionManager)
  resultWithResponseObject :
    Option ResponseObject → Option NSError → ServiceResult × Option NSError
  handleCommonErrorWithResponse : Option RCURLResponse → RCAPIManagerErrorType → Bool

/-- A service that passes on what it is given, with a session manager of its own or none. -/
def RCService.plain (sessionManager : Option SessionManager) : RCService where
  sessionManager := sessionManager.map some
  resultWithResponseObject responseObject error :=
    (⟨none, match responseObject with
      | some (.object j) => some j
      | some (.data d) => d.json
      | none => none⟩, error)
  handleCommonErrorWithResponse _ _ := true

/-- A request, with its attached service and parameters. -/
structure NSURLRequest where
  service : RCService
  originRequestParams : Option NSDictionary

/-- `responseStatusWithError:`. -/
def responseStatusWithError (error : Option NSError) : RCURLResponseStatus :=
  match error with
  | some error =>
    -- four assignments in a row: the last that applies stands
    let result := RCURLResponseStatus.errorNoNetwork
    let result := if error.code = NSURLErrorTimedOut then .errorTimeout else result
    let result := if error.code = NSURLErrorCancelled then .errorCancel else result
    if error.code = NSURLErrorNotConnectedToInternet then .errorNoNetwork else result
  | none => .success

theorem responseStatusWithError_eq_success {error : Option NSError} :
    responseStatusWithError error = .success ↔ error = none := by
  cases error with
  | none => simp [responseStatusWithError]
  | some e => simp only [responseStatusWithError]; split_ifs <;> simp

variable [Foundation]

/-- `initWithResponseString:requestId:request:responseObject:error:`. -/
def RCURLResponse.initWithResponseString (responseString : Option NSObject) (requestId : ℤ)
    (request : NSURLRequest) (responseObject : Option Json) (error : Option NSError) :
    RCURLResponse where
  contentString := RC_defaultValue responseString emptyLiteral
  requestId := requestId
  originRequestParams := request.originRequestParams
  isCache := false
  status := responseStatusWithError error
  content := some (responseObject.getD Json.empty)
  responseData := none

/-- `initWithData:`. -/
def RCURLResponse.initWithData (data : NSData) : RCURLResponse where
  contentString := stringWithData data
  status := responseStatusWithError none
  requestId := 0
  originRequestParams := none
  responseData := some data
  content := JSONObjectWithData data
  isCache := true

/-- The getter `responseData`. It raises (`none`) when it has to write a content that may
not stand at top level. -/
def RCURLResponse.getResponseData (r : RCURLResponse) : Option NSData :=
  match r.responseData with
  | some data => some data
  | none => r.content.bind dataWithJSONObject

/-! ## The demo service (`DemoService.m`)

It is handed a pointer to the error, as the protocol has it, not the error. -/

/-- An `NSError **` argument: `NULL`, or the address of a variable that holds this. -/
abbrev NSErrorPointer := Option (Option NSError)

namespace DemoService

/-- `resultWithResponseObject:response:request:error:`. -/
def resultWithResponseObject (responseObject : Option ResponseObject) (error : NSErrorPointer) :
    ServiceResult :=
  -- the test is of the pointer
  if error.isSome || responseObject.isNone then ⟨none, none⟩
  else
    match responseObject with
    | some (.data d) => ⟨stringWithData d, JSONObjectWithData d⟩
    | some (.object j) => ⟨none, some j⟩
    | none => ⟨none, none⟩

/-- The service, as the proxy uses it: it has no session manager of its own, and decodes
with the address of the completion handler's error, which it does not write to. -/
def service (handleCommonErrorWithResponse : Option RCURLResponse → RCAPIManagerErrorType → Bool) :
    RCService where
  sessionManager := none
  resultWithResponseObject responseObject error :=
    (DemoService.resultWithResponseObject responseObject (some error), error)
  handleCommonErrorWithResponse := handleCommonErrorWithResponse

end DemoService

end RCSdk
