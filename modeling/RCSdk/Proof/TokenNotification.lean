import RCSdk.Proof.Endings
import RCSdk.Spec.TokenNotification

/-!
# Who the token notifications name

The manager posts with itself as the one to continue; the demo service posts with itself too.

* `notifications_name_manager_iff`: it posts at most once, and names the manager exactly when the
  error type is one of the manager's two, or the content of the response does not reject the token.
-/

namespace RCSdk

/-- A content that is a dictionary is asked for its fields. -/
theorem contentForKey_obj {response : Option RCURLResponse} {kvs : List (String × Json)}
    (h : response.bind (·.content) = some (.obj kvs)) (key : String) :
    RCURLResponse.contentForKey response key = some (kvs.lookup key) := by
  unfold RCURLResponse.contentForKey
  rw [h]

/-- Any other content raises, whatever the key; of no content there is no field. -/
theorem contentForKey_other {response : Option RCURLResponse}
    (h : ∀ kvs, response.bind (·.content) ≠ some (.obj kvs)) :
    (∀ key, RCURLResponse.contentForKey response key = none) ∨
      ∀ key, RCURLResponse.contentForKey response key = some none := by
  unfold RCURLResponse.contentForKey
  split
  · exact Or.inr fun _ => rfl
  · rename_i kvs hkvs
    exact absurd hkvs (h kvs)
  · exact Or.inl fun _ => rfl

section Description

variable [Foundation] (describeCollection : Json → String)

/-- The content of a response is a dictionary whose fields reject the token. -/
def RejectsToken (response : Option RCURLResponse) : Prop :=
  ∃ kvs, response.bind (·.content) = some (.obj kvs) ∧
    (stringWithFormat describeCollection (kvs.lookup "resCode") ∈
        ["00100009", "05111001", "05111002", "1080002"] ∨
      kvs.lookup "errorMsg" = some (.str "invalid token") ∨
      kvs.lookup "errorMsg" = some (.str "access_token is required") ∨
      (kvs.lookup "errorMsg" = none ∨ ∃ s, kvs.lookup "errorMsg" = some (.str s)) ∧
        stringWithFormat describeCollection (kvs.lookup "errorCode") = "BL10015")

namespace DemoService

/-! ## The two tests -/

theorem isTokenIllegal_obj {response : Option RCURLResponse} {kvs : List (String × Json)}
    (h : response.bind (·.content) = some (.obj kvs)) :
    isTokenIllegal describeCollection response =
      some (decide (stringWithFormat describeCollection (kvs.lookup "resCode") ∈
        ["00100009", "05111001", "05111002", "1080002"])) := by
  unfold isTokenIllegal
  simp only [contentForKey_obj h, Option.bind_eq_bind, Option.bind_some, Option.some.injEq]
  rw [Bool.eq_iff_iff]
  simp [or_assoc]

theorem isTokenInvalid_obj {response : Option RCURLResponse} {kvs : List (String × Json)}
    (h : response.bind (·.content) = some (.obj kvs)) :
    isTokenInvalid describeCollection response = some true ↔
      kvs.lookup "errorMsg" = some (.str "invalid token") ∨
      kvs.lookup "errorMsg" = some (.str "access_token is required") ∨
      (kvs.lookup "errorMsg" = none ∨ ∃ s, kvs.lookup "errorMsg" = some (.str s)) ∧
        stringWithFormat describeCollection (kvs.lookup "errorCode") = "BL10015" := by
  unfold isTokenInvalid
  simp only [contentForKey_obj h, Option.bind_eq_bind, Option.bind_some]
  generalize kvs.lookup "errorMsg" = errorMsg
  match errorMsg with
  | none => simp [isEqualToString]
  | some (.str s) =>
    simp only [isEqualToString, Option.bind_some, beq_iff_eq, Option.some.injEq, Json.str.injEq]
    split_ifs <;> simp_all
  | some .null | some (.bool _) | some (.num _) | some (.arr _) | some (.obj _) =>
    simp [isEqualToString]

/-- **The two tests together**: the fields reject the token. -/
theorem rejectsToken_iff (response : Option RCURLResponse) :
    RejectsToken describeCollection response ↔
      isTokenIllegal describeCollection response = some true ∨
        isTokenIllegal describeCollection response = some false ∧
          isTokenInvalid describeCollection response = some true := by
  by_cases h : ∃ kvs, response.bind (·.content) = some (.obj kvs)
  · obtain ⟨kvs, hkvs⟩ := h
    have hunique : ∀ P : List (String × Json) → Prop,
        (∃ kvs', some (Json.obj kvs) = some (.obj kvs') ∧ P kvs') ↔ P kvs := by
      intro P
      simp only [Option.some.injEq, Json.obj.injEq, exists_eq_left']
    unfold RejectsToken
    rw [hkvs, hunique, isTokenInvalid_obj describeCollection hkvs,
      isTokenIllegal_obj describeCollection hkvs, Option.some_inj, Option.some_inj,
      decide_eq_true_iff, decide_eq_false_iff_not]
    tauto
  · have hnot : ¬ RejectsToken describeCollection response := fun ⟨kvs, hkvs, _⟩ => h ⟨kvs, hkvs⟩
    refine iff_of_false hnot ?_
    rcases contentForKey_other fun kvs hkvs => h ⟨kvs, hkvs⟩ with hraise | hnil
    · simp [isTokenIllegal, hraise]
    · simp [isTokenIllegal, isTokenInvalid, hnil, isEqualToString, stringWithFormat]

/-- **What the service posts, and when.** -/
theorem handleCommonError_cases (response : Option RCURLResponse) (m : ManagerId)
    (errorType : RCAPIManagerErrorType) :
    let answer := handleCommonErrorWithResponse describeCollection response m errorType
    RejectsToken describeCollection response ∧ answer.shouldContinue = some false ∧
        (∃ name, answer.posted = [⟨name, .service⟩]) ∨
      ¬ RejectsToken describeCollection response ∧ answer.shouldContinue ≠ some false ∧
        answer.posted = [] := by
  rw [rejectsToken_iff]
  unfold handleCommonErrorWithResponse
  cases isTokenIllegal describeCollection response with
  | none => simp
  | some illegal =>
    cases illegal with
    | true => simp
    | false =>
      cases isTokenInvalid describeCollection response with
      | none => simp
      | some invalid => cases invalid <;> simp

end DemoService

open DemoService

variable (c : Context) (m : ManagerId) (k : LoadId) (response : Option RCURLResponse)
  (errorType : RCAPIManagerErrorType) (x : Effects)

/-- **At most one notification is posted while a failure is handled, and it names the manager
exactly when the error type is one of the manager's own, or the content does not reject the
token.** -/
theorem notifications_name_manager_iff :
    (failedOnCallingAPIPosting describeCollection c m k response errorType x).posted.length ≤ 1 ∧
      ((∀ n ∈ (failedOnCallingAPIPosting describeCollection c m k response errorType x).posted,
        n.managerToContinue = .manager m) ↔
        errorType = .needLogin ∨ errorType = .needAccessToken ∨
          ¬ RejectsToken describeCollection response) := by
  unfold failedOnCallingAPIPosting
  by_cases h1 : errorType = .needLogin
  · simp [h1]
  by_cases h2 : errorType = .needAccessToken
  · simp [h2]
  simp only [h1, h2, if_false, false_or]
  rcases handleCommonError_cases describeCollection response m errorType with
    ⟨hrejects, -, name, hposted⟩ | ⟨hrejects, -, hposted⟩
  · simp [hposted, hrejects]
  · simp [hposted, hrejects]

end Description

/-- A response that asks to log in again: the notification does not name manager 3. -/
theorem service_names_itself :
    ¬ ∀ n ∈ (failedOnCallingAPIPosting (fun _ => "") (.plain .noCache) 3 7
        (some (RCURLResponse.initWithResponseString none 1 ⟨RCService.plain none, none⟩
          (some (.obj [("resCode", .str "00100009")])) none)) .default
        ⟨.init, .init, [], []⟩).posted, n.managerToContinue = .manager 3 := by
  decide

end RCSdk
