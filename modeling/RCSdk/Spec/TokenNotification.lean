import RCSdk.Spec.BaseManager

/-!
# The notifications about the user token

`failedOnCallingAPI:withErrorType:` posts them for two error types, and
`handleCommonErrorWithResponse:manager:errorType:` of the demo service for what a response says.
Each carries an object under `kRCUserTokenNotificationUserInfoKeyManagerToContinue`. How a
collection prints under `%@` is a parameter.
-/

namespace RCSdk

/-- `kRCUserTokenIllegalNotification` and `kRCUserTokenInvalidNotification`. -/
inductive TokenNotificationName where
  | illegal
  | invalid
  deriving DecidableEq, Repr

/-- What may stand under `kRCUserTokenNotificationUserInfoKeyManagerToContinue`. -/
inductive ManagerToContinue where
  | manager (m : ManagerId)
  | service
  deriving DecidableEq, Repr

structure TokenNotification where
  name : TokenNotificationName
  managerToContinue : ManagerToContinue
  deriving DecidableEq, Repr

/-- What handling a common error answers (`none` when it raises) and what it posts. -/
structure CommonError where
  shouldContinue : Option Bool
  posted : List TokenNotification
  deriving DecidableEq, Repr

/-- What a failure leaves (`none` when handling it raises) and what it posts. -/
structure FailureOutcome where
  effects : Option Effects
  posted : List TokenNotification

/-- `response.content[key]`: `nil` of no content, an exception (`none`) of a content that is no
dictionary. -/
def RCURLResponse.contentForKey (response : Option RCURLResponse) (key : String) :
    Option (Option Json) :=
  match response.bind (·.content) with
  | none => some none
  | some (.obj kvs) => some (kvs.lookup key)
  | some _ => none

/-- `[object isEqualToString:text]`: `NO` of `nil`, an exception of what is no string. -/
def isEqualToString (object : Option Json) (text : String) : Option Bool :=
  match object with
  | none => some false
  | some (.str s) => some (s == text)
  | some _ => none

section Description

variable [Foundation] (describeCollection : Json → String)

/-- `[NSString stringWithFormat:@"%@", object]`. -/
def stringWithFormat (object : Option Json) : String :=
  match object with
  | none => "(null)"
  | some .null => "<null>"
  | some (.bool b) => if b then "1" else "0"
  | some (.num q) => Foundation.describe q
  | some (.str s) => s
  | some collection => describeCollection collection

namespace DemoService

/-- The first test of `handleCommonErrorWithResponse:manager:errorType:`. -/
def isTokenIllegal (response : Option RCURLResponse) : Option Bool := do
  let resCode ← RCURLResponse.contentForKey response "resCode"
  let resCode := stringWithFormat describeCollection resCode
  some (resCode == "00100009" || resCode == "05111001" || resCode == "05111002" ||
    resCode == "1080002")

/-- The second test. -/
def isTokenInvalid (response : Option RCURLResponse) : Option Bool := do
  let errorCode ← RCURLResponse.contentForKey response "errorCode"
  let errorCode := stringWithFormat describeCollection errorCode
  let errorMsg ← RCURLResponse.contentForKey response "errorMsg"
  let isInvalid ← isEqualToString errorMsg "invalid token"
  if isInvalid then some true
  else do
    let isRequired ← isEqualToString errorMsg "access_token is required"
    if isRequired then some true else some (errorCode == "BL10015")

/-- `handleCommonErrorWithResponse:manager:errorType:`. -/
def handleCommonErrorWithResponse (response : Option RCURLResponse) (_manager : ManagerId)
    (_errorType : RCAPIManagerErrorType) : CommonError :=
  match isTokenIllegal describeCollection response with
  | none => ⟨none, []⟩
  -- the notifications carry `self`, which here is the service
  | some true => ⟨some false, [⟨.illegal, .service⟩]⟩
  | some false =>
    match isTokenInvalid describeCollection response with
    | none => ⟨none, []⟩
    | some true => ⟨some false, [⟨.invalid, .service⟩]⟩
    | some false => ⟨some true, []⟩

end DemoService

/-- The context of a manager of the demo service, when that gives this answer. -/
def Context.answering (c : Context) (shouldContinue : Bool) : Context :=
  { c with service := DemoService.service fun _ _ => shouldContinue }

/-- `failedOnCallingAPI:withErrorType:` for a manager of the demo service, with what is posted on
the way. -/
def failedOnCallingAPIPosting (c : Context) (m : ManagerId) (k : LoadId)
    (response : Option RCURLResponse) (errorType : RCAPIManagerErrorType) (x : Effects) :
    FailureOutcome :=
  if errorType = .needLogin then
    ⟨some (failedOnCallingAPI c m k response errorType x), [⟨.illegal, .manager m⟩]⟩
  else if errorType = .needAccessToken then
    ⟨some (failedOnCallingAPI c m k response errorType x), [⟨.invalid, .manager m⟩]⟩
  else
    let answer :=
      DemoService.handleCommonErrorWithResponse describeCollection response m errorType
    ⟨answer.shouldContinue.map fun shouldContinue =>
      failedOnCallingAPI (c.answering shouldContinue) m k response errorType x, answer.posted⟩

end Description

end RCSdk
