import RCSdk.Proof.Conservation

/-!
# The two copies of "a request is on its way"

A manager keeps the ids of its requests in `requestIdList` and a flag behind `isLoading`.
Every ending of a load clears the flag, also one that started no request; a cancel clears
ids, whether or not the proxy still finds their tasks.

* `RequestIds`: the list holds the ids of the live requests, and the getter says whether
  there are any.
* `requestIds_iff`: that holds throughout a run exactly when every step meets `IdsKept`.
* `loading_forgotten`: two requests overlap, the first completes, and `isLoading` is `NO`.
-/

namespace RCSdk

open Trans

/-! ## Live requests -/

namespace NSURLSessionDataTask

/-- The task is a live request of manager `m`. -/
def liveOf (m : ManagerId) (task : NSURLSessionDataTask) : Bool :=
  task.isLive && task.handler.manager == m

/-- Its id, if it is. -/
def liveId (m : ManagerId) (task : NSURLSessionDataTask) : Option ℤ :=
  if task.liveOf m then some task.taskIdentifier else none

variable {m : ManagerId} {task : NSURLSessionDataTask}

@[simp] theorem cancel_liveId : task.cancel.liveId m = none := by simp [liveId, liveOf]
@[simp] theorem complete_liveId : task.complete.liveId m = none := by simp [liveId, liveOf]
@[simp] theorem finish_liveId : task.finish.liveId m = task.liveId m := by simp [liveId, liveOf]

theorem liveId_eq_some {i : ℤ} :
    task.liveId m = some i ↔ task.liveOf m = true ∧ task.taskIdentifier = i := by
  simp [liveId]

theorem liveId_of_manager (h : task.handler.manager ≠ m) : task.liveId m = none := by
  simp [liveId, liveOf, h]

end NSURLSessionDataTask

namespace RCApiProxy

variable {m : ManagerId} {p p' : RCApiProxy} {t u : TaskRef} {task a : NSURLSessionDataTask}

/-- The ids of the requests of manager `m` that have neither completed nor been cancelled. -/
def liveIds (m : ManagerId) (p : RCApiProxy) : List ℤ := p.tasks.filterMap (·.liveId m)

/-- Task `u` is a live request of manager `m`. -/
def LiveAt (m : ManagerId) (p : RCApiProxy) (u : TaskRef) (a : NSURLSessionDataTask) : Prop :=
  p.tasks[u]? = some a ∧ a.liveOf m = true

theorem mem_liveIds {i : ℤ} : i ∈ p.liveIds m ↔ ∃ u a, LiveAt m p u a ∧ a.taskIdentifier = i := by
  rw [liveIds, List.mem_filterMap]
  constructor
  · rintro ⟨a, ha, hi⟩
    obtain ⟨hl, hi⟩ := NSURLSessionDataTask.liveId_eq_some.1 hi
    obtain ⟨u, hu⟩ := List.getElem?_of_mem ha
    exact ⟨u, a, ⟨hu, hl⟩, hi⟩
  · rintro ⟨u, a, ⟨hu, hl⟩, hi⟩
    exact ⟨a, List.mem_of_getElem? hu, NSURLSessionDataTask.liveId_eq_some.2 ⟨hl, hi⟩⟩

theorem liveIds_eq_nil : p.liveIds m = [] ↔ ∀ u a, ¬ LiveAt m p u a := by
  rw [List.eq_nil_iff_forall_not_mem]
  constructor
  · intro h u a hl; exact h _ (mem_liveIds.2 ⟨u, a, hl, rfl⟩)
  · intro h i hi
    obtain ⟨u, a, hl, -⟩ := mem_liveIds.1 hi
    exact h u a hl

theorem liveIds_call (handler : CompletionHandler) (m : ManagerId) (p : RCApiProxy) :
    (p.callApiWithRequest handler).2.liveIds m = p.liveIds m ++
      if handler.manager = m then [(p.callApiWithRequest handler).1] else [] := by
  obtain ⟨new, -, hh, hs, hc, hid, ht, -, -⟩ := callApiWithRequest_spec handler p
  have hlive : new.liveOf m = decide (handler.manager = m) := by
    simp [NSURLSessionDataTask.liveOf, NSURLSessionDataTask.isLive, hs, hc, hh, Bool.beq_eq_decide_eq]
  rw [liveIds, ht, List.filterMap_append, ← liveIds, hid]
  split_ifs with hm
  · simp [NSURLSessionDataTask.liveId, hlive, hm]
  · simp [NSURLSessionDataTask.liveId, hlive, hm]

theorem liveIds_finish (t : TaskRef) (m : ManagerId) (p : RCApiProxy) :
    (p.finish t).liveIds m = p.liveIds m :=
  Tables.filterMap_eq_of_map (Tables.map_modify_eq fun _ _ => NSURLSessionDataTask.finish_liveId)

/-- The completion of another manager's task. -/
theorem liveIds_complete (ht : p.tasks[t]? = some task) (hm : task.handler.manager ≠ m) :
    (p.complete t).liveIds m = p.liveIds m := by
  refine Tables.filterMap_eq_of_map ?_
  rw [RCApiProxy.complete, ht]
  refine Tables.map_modify_eq fun a ha => ?_
  obtain rfl := Option.some.inj (ht.symm.trans ha)
  rw [NSURLSessionDataTask.complete_liveId, NSURLSessionDataTask.liveId_of_manager hm]

theorem liveAt_complete :
    LiveAt m (p.complete t) u a ↔ LiveAt m p u a ∧ u ≠ t := by
  unfold LiveAt
  rw [complete_getElem?]
  constructor
  · rintro ⟨⟨b, hb, rfl⟩, hl⟩
    split_ifs at hl ⊢ with htu
    · simp [NSURLSessionDataTask.liveOf] at hl
    · exact ⟨⟨hb, hl⟩, Ne.symm htu⟩
  · rintro ⟨⟨ha, hl⟩, hne⟩
    exact ⟨⟨a, ha, by rw [if_neg hne.symm]⟩, hl⟩

/-! ## Cancels -/

/-- Proxy `p'` has the tasks of `p`, with a cancel sent to those that were hit. -/
def CancelSent (hit : TaskRef → Prop) (p p' : RCApiProxy) : Prop :=
  ∀ (u : TaskRef) b, p'.tasks[u]? = some b ↔
    ∃ a, p.tasks[u]? = some a ∧ (hit u ∧ b = a.cancel ∨ ¬ hit u ∧ b = a)

theorem cancelSent_cancel (i : ℤ) (p : RCApiProxy) :
    CancelSent (fun u => p.dispatchTable i = some u) p (p.cancelRequestWithRequestID i) := by
  intro u b
  rw [cancelRequestWithRequestID_getElem?]
  refine exists_congr fun a => and_congr_right fun _ => ?_
  split_ifs with h <;> simp [h]

theorem cancelSent_cancelList (ids : List ℤ) (p : RCApiProxy) :
    CancelSent (fun u => ∃ i ∈ ids, p.dispatchTable i = some u) p
      (p.cancelRequestWithRequestIDList ids) := by
  intro u b
  rw [cancelRequestWithRequestIDList_getElem?]
  simp only [not_exists, not_and, ne_eq]

variable {hit : TaskRef → Prop}

theorem CancelSent.liveAt (h : CancelSent hit p p') : LiveAt m p' u a ↔ LiveAt m p u a ∧ ¬ hit u := by
  unfold LiveAt
  rw [h u a]
  constructor
  · rintro ⟨⟨b, hb, ⟨-, rfl⟩ | ⟨hn, rfl⟩⟩, hl⟩
    · simp [NSURLSessionDataTask.liveOf] at hl
    · exact ⟨⟨hb, hl⟩, hn⟩
  · rintro ⟨⟨ha, hl⟩, hn⟩; exact ⟨⟨a, ha, Or.inr ⟨hn, rfl⟩⟩, hl⟩

/-- Every live request was hit exactly when none is left. -/
theorem CancelSent.nil_iff (h : CancelSent hit p p') :
    p'.liveIds m = [] ↔ ∀ u a, LiveAt m p u a → hit u := by
  rw [liveIds_eq_nil]
  refine forall₂_congr fun u a => ?_
  rw [h.liveAt, not_and, not_not]

/-- The reading of a place after the cancels. -/
theorem CancelSent.map_eq (h : CancelSent hit p p') {f : Option ℤ → Option ℤ}
    (hhit : ∀ u a, p.tasks[u]? = some a → hit u → f (a.liveId m) = none)
    (hmiss : ∀ u a, p.tasks[u]? = some a → ¬ hit u → f (a.liveId m) = a.liveId m) :
    p'.tasks.map (·.liveId m) = p.tasks.map fun a => f (a.liveId m) := by
  refine List.ext_getElem? fun u => ?_
  rw [List.getElem?_map, List.getElem?_map]
  cases ha : p.tasks[u]? with
  | none =>
    cases hb : p'.tasks[u]? with
    | none => rfl
    | some b =>
      obtain ⟨a, ha', -⟩ := (h u b).1 hb
      exact absurd (ha.symm.trans ha') (by simp)
  | some a =>
    rcases Classical.em (hit u) with hu | hu
    · rw [(h u a.cancel).2 ⟨a, ha, Or.inl ⟨hu, rfl⟩⟩, Option.map_some, Option.map_some,
        NSURLSessionDataTask.cancel_liveId, hhit u a ha hu]
    · rw [(h u a).2 ⟨a, ha, Or.inr ⟨hu, rfl⟩⟩, Option.map_some, Option.map_some, hmiss u a ha hu]

/-- **A cancel leaves the live ids as they were exactly when it hit none of them.** -/
theorem CancelSent.perm_iff (h : CancelSent hit p p') :
    (p'.liveIds m).Perm (p.liveIds m) ↔ ∀ u a, LiveAt m p u a → ¬ hit u := by
  have hlen : ∀ q : RCApiProxy, (q.liveIds m).length = q.tasks.countP (·.liveOf m) := by
    intro q
    rw [liveIds, List.length_filterMap_eq_countP]
    refine List.countP_congr fun a _ => ?_
    simp only [NSURLSessionDataTask.liveId]
    split_ifs with hl <;> simp [hl]
  constructor
  · -- a request that was hit is one fewer
    intro hperm u a hl hu
    have hlt : p'.tasks.countP (·.liveOf m) < p.tasks.countP (·.liveOf m) := by
      refine Tables.countP_lt (fun v b hb hlb => ?_) hl.1 hl.2 fun b hb hlb => ?_
      · exact ⟨b, (h.liveAt.1 ⟨hb, hlb⟩).1.1, hlb⟩
      · exact (h.liveAt.1 ⟨hb, hlb⟩).2 hu
    rw [← hlen, ← hlen, hperm.length_eq] at hlt
    exact lt_irrefl _ hlt
  · intro hnone
    refine List.Perm.of_eq (Tables.filterMap_eq_of_map (h.map_eq (f := id) (fun u a ha hu => ?_)
      fun _ _ _ _ => rfl))
    by_contra hl
    obtain ⟨i, hi⟩ := Option.ne_none_iff_exists'.1 hl
    exact hnone u a ⟨ha, (NSURLSessionDataTask.liveId_eq_some.1 hi).1⟩ hu

/-- A cancel of id `i` that hits every live request of that id takes the id off the live ones. -/
theorem TableOK.liveIds_cancel (hp : TableOK p) {i : ℤ}
    (hall : ∀ u a, LiveAt m p u a → a.taskIdentifier = i → p.dispatchTable i = some u) :
    (p.cancelRequestWithRequestID i).liveIds m = (p.liveIds m).filter (· ≠ i) := by
  rw [liveIds, liveIds, List.filter_filterMap]
  refine Tables.filterMap_eq_of_map ((cancelSent_cancel i p).map_eq (f := Option.filter (· ≠ i))
    (fun u a ha hu => ?_) fun u a ha hu => ?_)
  · -- what the entry leads to has the id
    obtain ⟨b, hb, hbi⟩ := hp.entry i u hu
    obtain rfl := Option.some.inj (ha.symm.trans hb)
    unfold NSURLSessionDataTask.liveId
    split_ifs <;> simp [hbi]
  · cases hl : a.liveId m with
    | none => rfl
    | some j =>
      obtain ⟨hlive, rfl⟩ := NSURLSessionDataTask.liveId_eq_some.1 hl
      have hne : a.taskIdentifier ≠ i := fun hi => hu (hall u a ⟨ha, hlive⟩ hi)
      simp [hne]

end RCApiProxy

/-- Reading the getter, which may clear the flag, does not change what it answers. -/
theorem RCAPIBaseManager.getIsLoading_read (s : RCAPIBaseManager) :
    ({ s with isLoading := s.getIsLoading } : RCAPIBaseManager).getIsLoading = s.getIsLoading := by
  rw [Bool.eq_iff_iff, getIsLoading_iff, and_iff_right_of_imp]
  exact fun h => ((getIsLoading_iff s).1 h).1

namespace World

open RCApiProxy

/-! ## The list and the flag -/

/-- **The list and the flag of manager `m` say what is on its way.** -/
structure RequestIds (m : ManagerId) (w : World) : Prop where
  ids : (w.managers m).requestIdList.Perm (w.proxy.liveIds m)
  isLoading : (w.managers m).getIsLoading = true ↔ w.proxy.liveIds m ≠ []

/-- **The condition on a step**, for manager `m`. A load call that ends without a request, and
the completion of a request, find no other live request of `m`. A cancel by `m` reaches every
live request of `m` that it names; a cancel by another manager reaches none. -/
def IdsKept [Foundation] (m : ManagerId) (w : World) (s : Step) : Prop :=
  (∀ params, s.loadCall = some (m, params) → EndsAtOnce s.context params w.cacheCenter →
    w.proxy.liveIds m = []) ∧
  match s.event with
  | .runMain =>
    ∀ t handler responseObject error rest,
      w.mainQueue = .completion t handler responseObject error :: rest → handler.manager = m →
        ∀ u a, LiveAt m w.proxy u a → u = t
  | .cancelAllRequests m' =>
    ∀ u a, LiveAt m w.proxy u a →
      if m' = m then w.proxy.dispatchTable a.taskIdentifier = some u
      else ∀ i ∈ (w.managers m').requestIdList, w.proxy.dispatchTable i ≠ some u
  | .cancelRequestWithRequestId m' i =>
    ∀ u a, LiveAt m w.proxy u a →
      if m' = m then a.taskIdentifier = i → w.proxy.dispatchTable i = some u
      else w.proxy.dispatchTable i ≠ some u
  | _ => True

variable {m : ManagerId} {w w' : World}

theorem requestIds_launch (m : ManagerId) (cacheCenter : RCCacheCenter) :
    RequestIds m (launch cacheCenter) :=
  ⟨List.Perm.refl _, by simp [getIsLoading_iff, launch, RCAPIBaseManager.init, liveIds, RCApiProxy.init]⟩

/-- A step that neither copy and no live id sees. -/
theorem RequestIds.congr (hw : RequestIds m w)
    (hl : (w'.managers m).requestIdList = (w.managers m).requestIdList)
    (hi : (w'.managers m).getIsLoading = (w.managers m).getIsLoading)
    (hp : w'.proxy.liveIds m = w.proxy.liveIds m) : RequestIds m w' :=
  ⟨hl ▸ hp ▸ hw.ids, hi ▸ hp ▸ hw.isLoading⟩

/-- A step of another manager that no live id sees. -/
theorem RequestIds.elsewhere (hw : RequestIds m w) (hm : w'.managers m = w.managers m)
    (hp : w'.proxy.liveIds m = w.proxy.liveIds m) : RequestIds m w' :=
  hw.congr (by rw [hm]) (by rw [hm]) hp

/-- A change of a manager's fields that neither copy sees. -/
theorem RequestIds.touched (hw : RequestIds m w) {m₀ : ManagerId}
    {f : RCAPIBaseManager → RCAPIBaseManager} (hl : ∀ s, (f s).requestIdList = s.requestIdList)
    (hi : ∀ s, (f s).getIsLoading = s.getIsLoading) : RequestIds m (w.modifyManager m₀ f) :=
  hw.congr (modifyManager_reads _ _ _ (·.requestIdList) hl m)
    (modifyManager_reads _ _ _ (·.getIsLoading) hi m) rfl

/-- A manager whose flag or list is cleared has no live request, and then an empty list. -/
theorem requestIds_idle_iff (h : (w.managers m).getIsLoading = false)
    (hl : w.proxy.liveIds m = [] → (w.managers m).requestIdList = []) :
    RequestIds m w ↔ w.proxy.liveIds m = [] := by
  constructor
  · intro hw
    by_contra hne
    exact absurd (hw.isLoading.2 hne) (by simp [h])
  · intro hnil
    exact ⟨by rw [hl hnil, hnil], by simp [h, hnil]⟩

/-- While requests are live the flag is set, whatever ids leave the list. -/
theorem RequestIds.flag (hw : RequestIds m w) {l : List ℤ}
    (hsub : l ⊆ (w.managers m).requestIdList) :
    ({ w.managers m with requestIdList := l }).getIsLoading = true ↔ l ≠ [] := by
  rw [getIsLoading_iff]
  refine and_iff_left_of_imp fun hne => ?_
  obtain ⟨i, hi⟩ := List.exists_mem_of_ne_nil l hne
  have hlive : w.proxy.liveIds m ≠ [] := List.ne_nil_of_mem (hw.ids.mem_iff.1 (hsub hi))
  exact ((getIsLoading_iff _).1 (hw.isLoading.2 hlive)).2

/-! ## What each event does to the two -/

/-- **The ending of a load of manager `m`** keeps the two in step exactly when it leaves no
live request. -/
theorem requestIds_ended_iff {k : LoadId} {response : Option RCURLResponse} {x : Effects}
    (hx : Ended m k response (w.enter m) x)
    (hl : w.proxy.liveIds m = [] →
      ∀ i ∈ (w.managers m).requestIdList, i = requestIdOf response) :
    RequestIds m (w.leave m k x) ↔ w.proxy.liveIds m = [] := by
  have hs : ((w.leave m k x).managers m) = x.self := by simp
  refine requestIds_idle_iff ?_ fun hnil => ?_
  · rw [hs]
    exact eq_false_of_ne_true fun h =>
      absurd ((getIsLoading_iff _).1 h).2 (by simp [hx.isLoading])
  · rw [hs, hx.requestIdList]
    exact List.filter_eq_nil_iff.2 fun i hi => by simpa using hl hnil i hi

/-- A request of manager `m` joins the list and the live ones. -/
theorem RequestIds.started (hw : RequestIds m w) (c : Context) (params : NSDictionary)
    (success fail : Option Block) (cacheCenter : RCCacheCenter) :
    RequestIds m ((w.lookedUp m success fail cacheCenter).startRequest c m w.loads params).1 := by
  have hlive := liveIds_call (handlerOf c m w.loads params) m w.proxy
  rw [if_pos (show (handlerOf c m w.loads params).manager = m from rfl)] at hlive
  refine ⟨?_, ?_⟩
  · rw [startRequest_managers, Function.update_self, startRequest_proxy]
    exact hlive ▸ hw.ids.append_right _
  · rw [getIsLoading_iff, startRequest_managers, Function.update_self, startRequest_proxy]
    exact iff_of_true ⟨by simp, rfl⟩ (hlive ▸ by simp)

/-- `cancelAllRequests` of manager `m` keeps the two in step exactly when the proxy finds every
live request of `m` by its id. -/
theorem RequestIds.cancelAll (hw : RequestIds m w) (hp : w.proxy.TableOK) :
    RequestIds m (w.cancelAllRequests m) ↔
      ∀ u a, LiveAt m w.proxy u a → w.proxy.dispatchTable a.taskIdentifier = some u := by
  have hsent := cancelSent_cancelList (w.managers m).requestIdList w.proxy
  have hs : (w.cancelAllRequests m).managers m = { w.managers m with requestIdList := [] } := by
    simp [cancelAllRequests]
  rw [requestIds_idle_iff (by rw [hs]; rfl) fun _ => by rw [hs]]
  refine hsent.nil_iff.trans (forall_congr' fun u => forall_congr' fun a => imp_congr_right fun hl => ?_)
  have hmem := hw.ids.mem_iff.2 (mem_liveIds.2 ⟨u, a, hl, rfl⟩)
  refine ⟨?_, fun h => ⟨_, hmem, h⟩⟩
  rintro ⟨i, -, h⟩
  -- an entry is an entry under the id of its task
  obtain ⟨b, hb, rfl⟩ := hp.entry i u h
  obtain rfl := Option.some.inj (hl.1.symm.trans hb)
  exact h

/-- `cancelRequestWithRequestId:` of manager `m` keeps the two in step exactly when the proxy
finds every live request of `m` with this id by it. -/
theorem RequestIds.cancel (hw : RequestIds m w) (hp : w.proxy.TableOK) (i : ℤ) :
    RequestIds m (w.cancelRequestWithRequestId m i) ↔
      ∀ u a, LiveAt m w.proxy u a → a.taskIdentifier = i → w.proxy.dispatchTable i = some u := by
  have hs : (w.cancelRequestWithRequestId m i).managers m = { w.managers m with
      requestIdList := (w.managers m).requestIdList.filter (· ≠ i) } := by
    simp [cancelRequestWithRequestId]
  constructor
  · -- a request that is missed stays live, but its id has left the list
    intro hw' u a hl hi
    by_contra hmiss
    have hlive : i ∈ ((w.managers m).requestIdList.filter (· ≠ i)) := by
      have hmem := hw'.ids.mem_iff.2
        (mem_liveIds.2 ⟨u, a, (cancelSent_cancel i w.proxy).liveAt.2 ⟨hl, hmiss⟩, hi⟩)
      rwa [hs] at hmem
    simp at hlive
  · intro hall
    have hids : ((w.managers m).requestIdList.filter (· ≠ i)).Perm
        ((w.proxy.cancelRequestWithRequestID i).liveIds m) := by
      rw [hp.liveIds_cancel hall]
      exact hw.ids.filter _
    refine ⟨by rw [hs]; exact hids, ?_⟩
    rw [hs, hw.flag (List.filter_subset_self _), Ne, Ne, ← List.perm_nil, ← List.perm_nil]
    exact not_congr ⟨fun h => hids.symm.trans h, fun h => hids.trans h⟩

/-- A cancel by another manager keeps the two in step exactly when it hits no live request. -/
theorem RequestIds.cancel_elsewhere (hw : RequestIds m w) {hit : TaskRef → Prop}
    (hsent : CancelSent hit w.proxy w'.proxy) (hm : w'.managers m = w.managers m) :
    RequestIds m w' ↔ ∀ u a, LiveAt m w.proxy u a → ¬ hit u := by
  rw [← hsent.perm_iff]
  constructor
  · intro hw'
    have hids := hw'.ids
    rw [hm] at hids
    exact hids.symm.trans hw.ids
  · intro hperm
    refine ⟨by rw [hm]; exact hw.ids.trans hperm.symm, ?_⟩
    rw [hm, hw.isLoading, Ne, Ne, ← List.perm_nil, ← List.perm_nil]
    exact not_congr ⟨fun h => hperm.trans h, fun h => hperm.symm.trans h⟩

variable [Foundation]

/-- A load call keeps the two in step unless it ends at once while a request is live. -/
theorem RequestIds.load {c : Context} {m₀ : ManagerId} {params : NSDictionary}
    {success fail : Option Block} {w₀ : World} (hw : RequestIds m w₀)
    (h : LoadCase c m₀ params success fail w₀ w') :
    RequestIds m w' ↔ (m₀ = m → EndsAtOnce c params w₀.cacheCenter → w₀.proxy.liveIds m = []) := by
  rcases h.ends with ⟨hends, w₁, response, x, ho, hid, hx, rfl⟩ | ⟨hends, rfl | ⟨cacheCenter, rfl⟩⟩
  · obtain ⟨errorType, hm⟩ := ho.managers
    by_cases hmm : m₀ = m
    · subst hmm
      have hlist : (w₁.managers m₀).requestIdList = (w₀.managers m₀).requestIdList := by
        rw [hm, Function.update_self]
      rw [requestIds_ended_iff hx, ho.proxy]
      · simp [hends]
      · -- no live request, so there is no id the ending could take off
        intro hnil i hi
        rw [ho.proxy] at hnil
        exact absurd (hw.ids.mem_iff.1 (hlist ▸ hi)) (by simp [hnil])
    · refine iff_of_true (hw.elsewhere ?_ ?_) fun h => absurd h hmm
      · rw [leave_managers, hm, Function.update_idem, Function.update_of_ne (Ne.symm hmm)]
      · rw [leave_proxy, ho.proxy]
  · exact iff_of_true (hw.congr rfl rfl rfl) fun _ h => absurd h hends
  · refine iff_of_true ?_ fun _ h => absurd h hends
    by_cases hmm : m₀ = m
    · subst hmm
      exact hw.started c params success fail cacheCenter
    · refine hw.elsewhere ?_ ?_
      · rw [startRequest_managers, Function.update_of_ne (Ne.symm hmm)]
        rfl
      · have hlive := liveIds_call (handlerOf c m₀ w₀.loads params) m w₀.proxy
        rwa [if_neg (show ¬ (handlerOf c m₀ w₀.loads params).manager = m from hmm),
          List.append_nil] at hlive

/-- The completion of a request of manager `m` keeps the two in step exactly when no other
request of `m` is live. -/
theorem RequestIds.completion {c : Context} {t : TaskRef} {handler : CompletionHandler}
    {responseObject : Option ResponseObject} {error : Option NSError} {rest : List MainBlock}
    (hw : RequestIds m w) (hq : QueueOK w)
    (hm : w.mainQueue = .completion t handler responseObject error :: rest)
    (h : CompletionCase c t handler responseObject error rest w w') :
    RequestIds m w' ↔ (handler.manager = m → ∀ u a, LiveAt m w.proxy u a → u = t) := by
  obtain ⟨x, hx, rfl⟩ := h.ended
  obtain ⟨task, ht, -, rfl⟩ := hq.head hm
  by_cases hmm : task.handler.manager = m
  · subst hmm
    have hnil : (w.popped t rest).proxy.liveIds task.handler.manager = [] ↔
        ∀ u a, LiveAt task.handler.manager w.proxy u a → u = t := by
      rw [liveIds_eq_nil]
      refine forall₂_congr fun u a => ?_
      rw [World.popped, liveAt_complete, not_and, not_not]
    rw [requestIds_ended_iff hx, hnil, forall_prop_of_true rfl]
    -- the ids in the list are those of the live requests, and the only one left was this task's
    intro hlive i hi
    obtain ⟨u, a, hl, rfl⟩ := mem_liveIds.1 (hw.ids.mem_iff.1 hi)
    obtain rfl := hnil.1 hlive u a hl
    obtain rfl := Option.some.inj (ht.symm.trans hl.1)
    simp [responseFor, RCURLResponse.initWithResponseString, ht]
  · refine iff_of_true (hw.elsewhere ?_ (liveIds_complete ht hmm)) fun h => absurd h hmm
    rw [leave_managers, Function.update_of_ne (Ne.symm hmm)]
    rfl

/-! ## One step and a run -/

/-- A step that is no load call meets its condition when its event does. -/
theorem idsKept_of_no_load {s : Step} (h : s.loadCall = none) :
    ∀ params, s.loadCall = some (m, params) → EndsAtOnce s.context params w.cacheCenter →
      w.proxy.liveIds m = [] :=
  fun _ hp => absurd (h.symm.trans hp) (by simp)

/-- So does a turn of the main queue that runs no completion. -/
theorem idsKept_of_no_completion {c : Context}
    (h : ∀ t handler responseObject error rest,
      w.mainQueue ≠ .completion t handler responseObject error :: rest) :
    IdsKept m w ⟨c, .runMain⟩ := by
  refine ⟨idsKept_of_no_load rfl, ?_⟩
  intro t handler responseObject error rest hq
  exact absurd hq (h t handler responseObject error rest)

theorem idsKept_load {c : Context} {ev : Event} {m₀ : ManagerId} {params : NSDictionary}
    {success fail : Option Block} {w₀ : World} (hev : IsLoad c w ev m₀ params success fail w₀) :
    IdsKept m w ⟨c, ev⟩ ↔
      (m₀ = m → EndsAtOnce c params w.cacheCenter → w.proxy.liveIds m = []) := by
  rw [IdsKept, hev.loadCall]
  constructor
  · rintro ⟨h, -⟩ rfl
    exact h params rfl
  · refine fun h => ⟨fun params' hp => ?_, by cases hev <;> trivial⟩
    obtain ⟨hmm, rfl⟩ := by simpa using hp
    exact h hmm

/-- **One step.** A step keeps the list and the flag in step exactly when it meets the condition. -/
theorem requestIds_step_iff {s : Step} (hq : QueueOK w) (hp : w.proxy.TableOK)
    (hw : RequestIds m w) (hs : w.step s = some w') : RequestIds m w' ↔ IdsKept m w s := by
  obtain ⟨c, ev⟩ := s
  cases act_of_step hs with
  | @load ev m₀ params success fail w₀ w' hev hcase =>
    have hkept := idsKept_load (m := m) hev
    obtain ⟨successBlock, failBlock, rfl⟩ := hev.stored
    have hw₀ : RequestIds m (w.modifyManager m₀ fun s => { s with successBlock, failBlock }) :=
      hw.touched (fun _ => rfl) fun _ => rfl
    exact (hw₀.load hcase).trans hkept.symm
  | finish t responseObject error task htask hact =>
    exact iff_of_true (hw.congr rfl rfl (liveIds_finish t m w.proxy))
      ⟨idsKept_of_no_load rfl, trivial⟩
  | finishIdle => exact iff_of_true hw ⟨idsKept_of_no_load rfl, trivial⟩
  | completion hm hcase =>
    rw [hw.completion hq hm hcase]
    refine ⟨fun h => ⟨idsKept_of_no_load rfl, ?_⟩, fun h => h.2 _ _ _ _ _ hm⟩
    intro t handler responseObject error rest hm'
    obtain ⟨⟨rfl, rfl, -, -⟩, -⟩ := by simpa using hm.symm.trans hm'
    exact h
  | success hm =>
    refine iff_of_true (hw.congr rfl rfl rfl) (idsKept_of_no_completion ?_)
    simp [hm]
  | failed hm =>
    refine iff_of_true (hw.congr rfl rfl rfl) (idsKept_of_no_completion ?_)
    simp [hm]
  | runIdle hm =>
    refine iff_of_true hw (idsKept_of_no_completion ?_)
    simp [hm]
  | cancelAll m₀ =>
    rw [IdsKept, and_iff_right (idsKept_of_no_load rfl)]
    by_cases hmm : m₀ = m
    · subst hmm
      simp only [if_true]
      exact hw.cancelAll hp
    · simp only [if_neg hmm]
      rw [hw.cancel_elsewhere (cancelSent_cancelList (w.managers m₀).requestIdList w.proxy)]
      · simp only [not_exists, not_and, ne_eq]
      · exact Function.update_of_ne (Ne.symm hmm) _ _
  | cancel m₀ i =>
    rw [IdsKept, and_iff_right (idsKept_of_no_load rfl)]
    by_cases hmm : m₀ = m
    · subst hmm
      simp only [if_true]
      exact hw.cancel hp i
    · simp only [if_neg hmm]
      refine hw.cancel_elsewhere (cancelSent_cancel i w.proxy) ?_
      exact Function.update_of_ne (Ne.symm hmm) _ _
  | touch h =>
    refine iff_of_true ?_ ⟨idsKept_of_no_load h.loadCall, by cases h <;> trivial⟩
    cases h with
    | cleanData m₀ => exact hw.touched (fun _ => rfl) fun _ => rfl
    | isReachable m₀ =>
      rcases isReachable_cases c m₀ w with ⟨-, he⟩ | ⟨-, he⟩ <;> rw [he]
      · exact hw
      · exact hw.touched (fun _ => rfl) fun _ => rfl
    | isLoading m₀ => exact hw.touched (fun _ => rfl) RCAPIBaseManager.getIsLoading_read
  | clean h =>
    exact iff_of_true (hw.congr rfl rfl rfl)
      ⟨idsKept_of_no_load h.loadCall, by cases h <;> trivial⟩

/-- **The list and the flag are right throughout a run exactly when every step of the run meets
the condition.** -/
theorem requestIds_iff (m : ManagerId) {cacheCenter : RCCacheCenter} {h : List (World × Step)}
    (hr : Run step (launch cacheCenter) h w) :
    ((∀ q ∈ h, RequestIds m q.1) ∧ RequestIds m w) ↔ ∀ q ∈ h, IdsKept m q.1 q.2 :=
  -- what the steps may use holds of every state that a run reaches
  hr.always_iff (I := fun w => ∃ h, Run step (launch cacheCenter) h w) ⟨[], .nil⟩
    (requestIds_launch m cacheCenter) (fun _ _ _ ⟨_, hr⟩ hs => ⟨_, hr.snoc hs⟩)
    fun _ _ _ ⟨_, hr⟩ hw hs => requestIds_step_iff (queue_ok hr) (table_ok hr) hw hs

end World

namespace World

/-- Two loads that overlap, and both cancelled. -/
theorem requestIds_two_loads :
    ∃ h w, Run step init h w ∧ (∃ q ∈ h, (q.1.managers 0).requestIdList = [1, 2]) ∧
      (w.managers 0).requestIdList = [] ∧ (∀ q ∈ h, RequestIds 0 q.1) ∧ RequestIds 0 w := by
  have hr : Run step (launch .init) _ _ := run_of_exec
    [⟨.plain .noCache, .loadData 0⟩, ⟨.plain .noCache, .loadData 0⟩,
      ⟨.plain .noCache, .cancelAllRequests 0⟩] rfl
  refine ⟨_, _, hr, ⟨_, List.mem_cons_of_mem _ (List.mem_cons_of_mem _ List.mem_cons_self), rfl⟩,
    rfl, (requestIds_iff 0 hr).2 ?_⟩
  have hstarts : ∀ (w : World) (params : NSDictionary), w.cacheCenter = .init →
      (Step.mk (.plain .noCache) (.loadData 0)).loadCall = some (0, params) →
      ¬ EndsAtOnce (.plain .noCache) params w.cacheCenter := by
    intro w params hw hp hends
    obtain rfl := (Prod.mk.inj (Option.some.inj hp)).2
    rw [hw] at hends
    rcases hends with h | h <;> exact h rfl
  refine forall_visited_cons ⟨fun params hp h => absurd h (hstarts _ params rfl hp), trivial⟩ rfl <|
    forall_visited_cons ⟨fun params hp h => absurd h (hstarts _ params rfl hp), trivial⟩ rfl <|
    forall_visited_cons ⟨idsKept_of_no_load rfl, ?_⟩ rfl forall_visited_nil
  -- the table has both tasks under their own identifiers
  rintro (_ | _ | u) a ⟨ha, -⟩
  · obtain rfl := Option.some.inj ha
    rfl
  · obtain rfl := Option.some.inj ha
    rfl
  · cases ha

/-- **Loading, and the flag says no.** Two requests overlap; the first completes, and the flag
is cleared while the second is live. -/
theorem loading_forgotten :
    ∃ w, exec step init
        [⟨.plain .noCache, .loadData 0⟩, ⟨.plain .noCache, .loadData 0⟩,
          ⟨.plain .noCache, .finish 0 (some (.object .empty)) none⟩,
          ⟨.plain .noCache, .runMain⟩] = some w ∧
      w.proxy.liveIds 0 = [2] ∧ (w.managers 0).requestIdList = [2] ∧
      (w.managers 0).getIsLoading = false ∧ ¬ RequestIds 0 w := by
  refine ⟨_, rfl, rfl, rfl, rfl, fun h => ?_⟩
  exact absurd (h.isLoading.2 (by decide)) (by decide)

end World

end RCSdk
