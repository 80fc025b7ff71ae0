import RCSdk.Proof.History

/-!
# What writes the outcome fields of a manager

`errorType`, `response`, `fetchedRawData` and `errorMessage` are read at any moment. Besides
the ending of a load, which writes what its result says (`finish_wrote`), only two calls
touch them: `cleanData`, and the getter `isReachable` when it finds no network.

* `outcome_step`: what a step that ends no load of the manager does to its outcome fields.
* `errorType_frame`: in every run `errorType` is what the last ending, `cleanData` or
  reading of `isReachable` without network left there.
* `errorType_overwritten`: such a reading replaces the outcome of a load.
-/

namespace RCSdk

open Trans

/-- The fields of a manager that tell how its last load ended. -/
structure Outcome where
  errorType : RCAPIManagerErrorType
  response : Option RCURLResponse
  fetchedRawData : Option RawData
  errorMessage : Option String

/-- The outcome fields of a manager. -/
def RCAPIBaseManager.outcome (s : RCAPIBaseManager) : Outcome :=
  ⟨s.errorType, s.response, s.fetchedRawData, s.errorMessage⟩

namespace World

/-- What a step that ends no load of manager `m` makes of its outcome fields. -/
def touched (m : ManagerId) (s : Step) (o : Outcome) : Outcome :=
  match s.event with
  | .cleanData m' => if m' = m then { o with errorType := .default, fetchedRawData := none } else o
  | .isReachable m' =>
    if m' = m ∧ s.context.isReachable = false then { o with errorType := .noNetWork } else o
  | _ => o

section Frame

variable [Foundation] {m : ManagerId}

/-- What a step makes of the error type of manager `m`. -/
def nextErrorType (m : ManagerId) (errorType : RCAPIManagerErrorType) (q : World × Step) :
    RCAPIManagerErrorType :=
  match resultOf m q.1 q.2 with
  | some o => o.errorType
  | none => (touched m q.2 ⟨errorType, none, none, none⟩).errorType

omit [Foundation] in
theorem touched_errorType (s : Step) (o : Outcome) :
    (touched m s o).errorType = (touched m s ⟨o.errorType, none, none, none⟩).errorType := by
  unfold touched
  cases s.event <;> dsimp only <;> split_ifs <;> rfl

/-- A load call that ends nothing leaves the outcome fields of every manager. -/
theorem load_outcome {c : Context} {w w' : World} {ev : Event} {m' : ManagerId}
    {params : NSDictionary} {success fail : Option Block} {w₀ : World}
    (hev : IsLoad c w ev m' params success fail w₀)
    (hcase : LoadCase c m' params success fail w₀ w') (hr : resultOf m w ⟨c, ev⟩ = none) :
    (w'.managers m).outcome = (w.managers m).outcome := by
  have hl := hev.loadCall
  obtain ⟨successBlock, failBlock, rfl⟩ := hev.stored
  have hstored : ((w.modifyManager m' fun s => { s with successBlock, failBlock }).managers m).outcome =
      (w.managers m).outcome := update_reads RCAPIBaseManager.outcome (by rfl) m
  rw [← hstored]
  by_cases hm : m' = m
  · subst hm
    simp only [resultOf, hl, if_true] at hr
    rcases hcase.inputs with ⟨-, -, h⟩ | ⟨cacheCenter, response, x, ha, -⟩ |
      ⟨errorType, w₁, hf, -⟩
    · rcases h with rfl | ⟨cacheCenter, rfl⟩
      · rfl
      · exact startRequest_reads _ _ _ _ _ RCAPIBaseManager.outcome (fun _ _ _ => rfl) m'
    · rw [modifyManager_cacheCenter] at ha
      simp [ha] at hr
    · rw [modifyManager_cacheCenter] at hf
      split at hr
      · simp at hr
      · simp [hf] at hr
  · -- another manager's call, whatever becomes of it
    rcases hcase.inputs with ⟨-, -, h⟩ | ⟨cacheCenter, response, x, -, -, -, rfl⟩ |
      ⟨errorType, w₁, -, hw₁, rfl⟩
    · rcases h with rfl | ⟨cacheCenter, rfl⟩
      · rfl
      · exact startRequest_reads _ _ _ _ _ RCAPIBaseManager.outcome (fun _ _ _ => rfl) m
    · rw [leave_managers, Function.update_of_ne (Ne.symm hm)]
      rfl
    · rw [leave_managers, Function.update_of_ne (Ne.symm hm)]
      obtain rfl | ⟨cacheCenter, rfl⟩ := hw₁
      · rfl
      · rw [modifyManager_managers, Function.update_of_ne (Ne.symm hm)]
        rfl

omit [Foundation] in
theorem touch_outcome {c : Context} {w w' : World} {ev : Event} (h : IsTouch c w ev w') :
    (w'.managers m).outcome = touched m ⟨c, ev⟩ (w.managers m).outcome := by
  cases h with
  | cleanData m' =>
    simp only [touched, cleanData, modifyManager_managers]
    by_cases hm : m' = m
    · subst hm; rw [Function.update_self, if_pos rfl]; rfl
    · rw [Function.update_of_ne (Ne.symm hm), if_neg hm]
  | isReachable m' =>
    simp only [touched]
    rcases isReachable_cases c m' w with ⟨hreach, he⟩ | ⟨hreach, he⟩ <;> rw [he]
    · rw [if_neg (by simp [hreach])]
    · rw [modifyManager_managers]
      by_cases hm : m' = m
      · subst hm; rw [Function.update_self, if_pos ⟨rfl, hreach⟩]; rfl
      · rw [Function.update_of_ne (Ne.symm hm), if_neg fun h => hm h.1]
  | isLoading m' =>
    exact update_reads RCAPIBaseManager.outcome (by rfl) m

/-- **What a step that ends no load of `m` does to the outcome fields of `m`.** -/
theorem outcome_step {w w' : World} {s : Step} (hs : w.step s = some w')
    (hr : resultOf m w s = none) : (w'.managers m).outcome = touched m s (w.managers m).outcome := by
  obtain ⟨c, ev⟩ := s
  cases act_of_step hs with
  | load hev hcase =>
    rw [load_outcome hev hcase hr]
    cases hev <;> rfl
  | @completion t handler responseObject error rest _ hq hcase =>
    have hl : (⟨c, .runMain⟩ : Step).loadCall = none := rfl
    obtain ⟨x, -, rfl⟩ := hcase.ended
    have hm : handler.manager ≠ m := by
      intro hm
      simp only [resultOf, hl, hq, if_pos hm] at hr
      split at hr <;> simp at hr
    rw [leave_managers, Function.update_of_ne (Ne.symm hm)]
    rfl
  | touch ht => exact touch_outcome ht
  | clean hc => cases hc <;> rfl
  | finish => rfl
  | finishIdle => rfl
  | success => rfl
  | failed => rfl
  | runIdle => rfl
  | cancelAll m' =>
    exact update_reads RCAPIBaseManager.outcome (by rfl) m
  | cancel m' requestID =>
    exact update_reads RCAPIBaseManager.outcome (by rfl) m

/-- One step's error type. -/
theorem errorType_step {w w' : World} {s : Step} (hs : w.step s = some w') :
    (w'.managers m).errorType = nextErrorType m (w.managers m).errorType (w, s) := by
  unfold nextErrorType
  dsimp only
  cases hr : resultOf m w s with
  | some o => exact (finish_wrote hs hr).errorType
  | none =>
    have h := congrArg Outcome.errorType (outcome_step hs hr)
    rw [touched_errorType] at h
    exact h

/-- **The frame of the outcome fields.** In every reachable state a step that ends no load of
`m` leaves them as they are, but for `cleanData` and a reading of `isReachable` without
network; and `errorType` is what the last of these three has left there. -/
theorem outcome_frame {cacheCenter : RCCacheCenter} {h : List (World × Step)} {w : World}
    (hr : Run step (launch cacheCenter) h w) (m : ManagerId) :
    (w.managers m).errorType = h.foldl (nextErrorType m) .default ∧
      ∀ s w', w.step s = some w' → resultOf m w s = none →
        (w'.managers m).outcome = touched m s (w.managers m).outcome := by
  refine ⟨?_, fun s w' hs => outcome_step hs⟩
  induction hr with
  | nil => rfl
  | snoc _ hst ih =>
    rw [List.foldl_append, ← ih]
    exact errorType_step hst

end Frame

/-- After a success the error type is that of the success, and a reading of `isLoading`
leaves it. -/
theorem errorType_kept :
    ∃ w, exec step init
        [⟨.plain .noCache, .loadData 0⟩, ⟨.plain .noCache, .finish 0 (some (.object .empty)) none⟩,
          ⟨.plain .noCache, .runMain⟩, ⟨.plain .noCache, .isLoading 0⟩] = some w ∧
      (w.managers 0).errorType = .success := by
  have hr : Run step (launch .init) _ _ := run_of_exec
    ([⟨.plain .noCache, .loadData 0⟩, ⟨.plain .noCache, .finish 0 (some (.object .empty)) none⟩,
      ⟨.plain .noCache, .runMain⟩, ⟨.plain .noCache, .isLoading 0⟩] : List Step) rfl
  exact ⟨_, rfl, (outcome_frame hr 0).1⟩

/-- **A getter that writes.** After a success, reading `isReachable` without network turns
the error type into that of a failure. -/
theorem errorType_overwritten :
    ∃ w w', exec step init
        [⟨.plain .noCache, .loadData 0⟩, ⟨.plain .noCache, .finish 0 (some (.object .empty)) none⟩,
          ⟨.plain .noCache, .runMain⟩] = some w ∧
      w.step ⟨{ Context.plain .noCache with isReachable := false }, .isReachable 0⟩ = some w' ∧
      (w.managers 0).errorType = .success ∧ (w'.managers 0).errorType = .noNetWork :=
  ⟨_, _, rfl, rfl, rfl, rfl⟩

end World

end RCSdk
