import RCSdk.Proof.WorldStep

/-!
# What the demo service makes of a body

The decoder returns nothing when the pointer to the error is not `NULL`, and the proxy
always passes an address. So every response of the demo service has an empty content,
whatever the server sent.

* `result_of_address`: no body is decoded.
* `demo_completion`: what every completion without error leaves in the manager.
* `demo_delivers_iff`: the body reaches the manager exactly when nothing is lost by that.
* `body_lost`: an array of one number.
-/

namespace RCSdk

section Demo

variable [Foundation]

/-- The JSON of a response object: what its bytes hold, or the object already decoded. -/
def ResponseObject.json : ResponseObject → Option Json
  | .data d => JSONObjectWithData d
  | .object j => some j

/-- A response object that reads as JSON. -/
structure JSONBody where
  responseObject : ResponseObject
  json : Json
  reads : responseObject.json = some json

/-- The text of a body: that of its bytes, if it came as bytes that are text. -/
def JSONBody.text (body : JSONBody) : Option String :=
  match body.responseObject with
  | .data d => d.utf8
  | .object _ => none

/-- **The body reached manager `m`**: the response has its JSON as content, and its text if
it came as bytes, and the manager's raw data is the same JSON. -/
structure Delivers (body : JSONBody) (m : ManagerId) (w : World) : Prop where
  response : ∃ r, (w.managers m).response = some r ∧ r.content = some body.json ∧
    ∀ d, body.responseObject = .data d → r.contentString.map (·.value) = d.utf8.map .string
  fetchedRawData : (w.managers m).fetchedRawData = some (.content body.json)

/-- A body of which nothing can be lost: an empty object, not in readable bytes. -/
def JSONBody.IsBlank (body : JSONBody) : Prop := body.json = .empty ∧ body.text = none

/-! ## The decoder -/

/-- **No body is decoded**: the address of a variable is never `NULL`. -/
theorem DemoService.result_of_address (responseObject : Option ResponseObject)
    (error : Option NSError) :
    DemoService.resultWithResponseObject responseObject (some error) = ⟨none, none⟩ := rfl

/-! ## The manager -/

/-- A success with an object or array does not raise. -/
theorem successed_document_isSome {c : Context} {m : ManagerId} {k : LoadId} {response : RCURLResponse}
    {content : Json} {x : Effects} (hc : response.content = some content)
    (ht : content.isTopLevel = true) : (successedOnCallingAPI c m k response x).isSome := by
  have hraw : rawDataOf response = some (.content content) := by simp only [rawDataOf, hc]
  have hdata : (dataWithJSONObject content).isSome := by simp [dataWithJSONObject, ht]
  have hsave : ∀ cacheCenter, (saveResponse c response cacheCenter).isSome := by
    intro cacheCenter
    have hmem : (cacheCenter.saveMemoryCache c.now response c.serviceIdentifier c.methodName
        c.memoryCacheSecond).isSome := by
      simp only [RCCacheCenter.saveMemoryCache, hc]
      cases response.originRequestParams with
      | none => rfl
      | some params =>
        simp [RCMemoryCacheDataCenter.saveCacheWithResponse, hc, hdata]
    unfold saveResponse
    split_ifs <;> simp [hmem]
  unfold successedOnCallingAPI
  simp only [hraw, Option.bind_some]
  split_ifs
  · simp [hsave]
  · rfl

/-- A success leaves its response and what it fetched in the manager, whatever the validator
finds. -/
theorem successed_received {c : Context} {m : ManagerId} {k : LoadId} {response : RCURLResponse}
    {content : Json} {x x' : Effects} (hc : response.content = some content)
    (h : successedOnCallingAPI c m k response x = some x') :
    x'.self.response = some response ∧ x'.self.fetchedRawData = some (.content content) := by
  obtain ⟨rawData, hraw, hend⟩ := successed_cases h
  simp only [rawDataOf, hc, Option.some.injEq] at hraw
  rcases hend with ⟨-, cacheCenter, -, rfl⟩ | ⟨-, rfl⟩
  · rw [performSuccess_self, ← hraw]
    exact ⟨rfl, rfl⟩
  · rw [failed_self, ← hraw]
    exact ⟨rfl, rfl⟩

/-- **What every completion without error leaves in the manager**: an empty content without
a text. -/
theorem demo_completion (handle : Option RCURLResponse → RCAPIManagerErrorType → Bool) (c : Context)
    (t : TaskRef) (m : ManagerId) (k : LoadId) (params : Option NSDictionary)
    (responseObject : Option ResponseObject) (w : World) :
    ∃ w', w.completionHandler c t ⟨m, k, ⟨DemoService.service handle, params⟩⟩ responseObject none =
        some w' ∧
      (∃ r, (w'.managers m).response = some r ∧ r.content = some .empty ∧ r.contentString = none) ∧
      (w'.managers m).fetchedRawData = some (.content .empty) := by
  obtain ⟨requestID, hid⟩ : ∃ i, i = (w.proxy.tasks[t]?.map (·.taskIdentifier)).getD 0 := ⟨_, rfl⟩
  obtain ⟨response, hr⟩ : ∃ r, r = RCURLResponse.initWithResponseString
      (DemoService.resultWithResponseObject responseObject (some none)).responseString requestID
      ⟨DemoService.service handle, params⟩
      (DemoService.resultWithResponseObject responseObject (some none)).responseObject none := ⟨_, rfl⟩
  have hc : response.content = some .empty := by rw [hr, DemoService.result_of_address]; rfl
  have hs : response.contentString = none := by rw [hr, DemoService.result_of_address]; rfl
  obtain ⟨x, hx⟩ := Option.isSome_iff_exists.1
    (successed_document_isSome (c := c) (m := m) (k := k)
      (x := { w with proxy := w.proxy.complete t }.enter m) hc rfl)
  obtain ⟨hresp, hraw⟩ := successed_received hc hx
  refine ⟨{ w with proxy := w.proxy.complete t }.leave m k x, ?_, ⟨response, ?_, hc, hs⟩, ?_⟩
  · have hcall : w.completionHandler c t ⟨m, k, ⟨DemoService.service handle, params⟩⟩ responseObject
        none = (successedOnCallingAPI c m k response ({ w with proxy := w.proxy.complete t }.enter m)).map
          fun x => { w with proxy := w.proxy.complete t }.leave m k x := by
      rw [hr, hid]; rfl
    rw [hcall, hx, Option.map_some]
  · rw [World.leave_managers, Function.update_self, hresp]
  · rw [World.leave_managers, Function.update_self, hraw]

omit [Foundation] in
/-- A body without text, as the response should have it. -/
theorem JSONBody.text_eq_none {body : JSONBody} :
    body.text = none ↔ ∀ d, body.responseObject = .data d → d.utf8 = none := by
  unfold JSONBody.text
  cases body.responseObject with
  | data d => simp
  | object j => simp

/-- **The body reaches the manager exactly when it is an empty object and not readable as
text.** -/
theorem demo_delivers_iff (handle : Option RCURLResponse → RCAPIManagerErrorType → Bool) (c : Context)
    (t : TaskRef) (m : ManagerId) (k : LoadId) (params : Option NSDictionary) (body : JSONBody)
    (w : World) :
    (∃ w', w.completionHandler c t ⟨m, k, ⟨DemoService.service handle, params⟩⟩
        (some body.responseObject) none = some w' ∧ Delivers body m w') ↔ body.IsBlank := by
  obtain ⟨w', hw, ⟨r, hresp, hc, hs⟩, hraw⟩ :=
    demo_completion handle c t m k params (some body.responseObject) w
  rw [JSONBody.IsBlank, JSONBody.text_eq_none]
  constructor
  · rintro ⟨w'', hw'', hd⟩
    obtain rfl := Option.some.inj (hw.symm.trans hw'')
    obtain ⟨r', hresp', hc', hs'⟩ := hd.response
    obtain rfl := Option.some.inj (hresp.symm.trans hresp')
    refine ⟨(Option.some.inj (hc.symm.trans hc')).symm, fun d hbody => ?_⟩
    have htext := hs' d hbody
    rw [hs, Option.map_none] at htext
    exact Option.map_eq_none_iff.1 htext.symm
  · rintro ⟨hj, htext⟩
    refine ⟨w', hw, ⟨r, hresp, hj ▸ hc, fun d hbody => ?_⟩, hj ▸ hraw⟩
    rw [hs, htext d hbody]
    rfl

end Demo

/-- **An array of one number**, as bytes: the manager holds an empty object instead. -/
theorem body_lost :
    ∃ w', World.init.completionHandler (.plain .noCache) 0
        ⟨0, 0, ⟨DemoService.service fun _ _ => true, none⟩⟩
        (some (.data ⟨some "[1]", some (.arr [.num 1])⟩)) none = some w' ∧
      (w'.managers 0).fetchedRawData = some (.content (.obj [])) ∧
      ¬ Delivers ⟨.data ⟨some "[1]", some (.arr [.num 1])⟩, .arr [.num 1], rfl⟩ 0 w' :=
  ⟨_, rfl, rfl, fun h => by cases h.fetchedRawData⟩

end RCSdk
