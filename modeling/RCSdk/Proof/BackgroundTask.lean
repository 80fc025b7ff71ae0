import RCSdk.Lib.Run
import RCSdk.Spec.KeepBGRun

/-!
# The background tasks of the keep-alive manager

`_task` holds one identifier. Whatever the interleaving, an identifier in the field is one
that has not been ended (`TaskOK`), so none is ended twice; but a start or a renewal that finds
an identifier in the field forgets it, and a renewal that is late opens one after a stop.

* `accounted_iff`: in every run the identifiers are accounted for exactly when each start and
  each renewal finds the field empty, and no renewal comes after a stop.
* `task_forgotten`: the first renewal of a running manager leaves two identifiers open.
-/

namespace RCSdk

open Trans

namespace BackTask

/-- The identifier was begun and has not been ended. -/
def IsOpen (b : BackTask) (id : UIBackgroundTaskIdentifier) : Prop := id ∈ b.begun ∧ id ∉ b.ended

/-- The last call was `stopBGRun`. -/
def Stopped (b : BackTask) : Prop := b.calls.getLast? = some .stopBGRun

/-- **The identifiers are accounted for.** -/
structure Accounted (b : BackTask) : Prop where
  held : ∀ id, b.IsOpen id → id = b.manager.task
  once : ∀ id ∈ b.begun, b.ended.count id ≤ 1
  stopped : b.Stopped → ∀ id, ¬ b.IsOpen id

/-- What holds in every run: the field is empty or holds an open identifier. -/
structure TaskOK (b : BackTask) : Prop where
  isOpen : b.manager.task ≠ UIBackgroundTaskInvalid → b.IsOpen b.manager.task
  begun : ∀ id ∈ b.ended, id ≠ UIBackgroundTaskInvalid → id ∈ b.begun
  valid : ∀ id ∈ b.begun, id ≠ UIBackgroundTaskInvalid
  once : ∀ id, id ≠ UIBackgroundTaskInvalid → b.ended.count id ≤ 1

/-- **The condition on a step.** A start finds no identifier in the field, and neither does a
renewal, which comes before a stop. -/
def RenewsEmpty (b : BackTask) : Event → Prop
  | .startBGRun => b.manager.task = UIBackgroundTaskInvalid
  | .runMain backgroundTimeRemaining =>
    ∀ rest, b.mainQueue = .startAudioPlay :: rest → backgroundTimeRemaining < 61 →
      b.manager.task = UIBackgroundTaskInvalid ∧ ¬ b.Stopped
  | .stopBGRun | .runSerial | .timerFires | .taskExpires => True

variable {ids : IdentifierSource} {b b' : BackTask}

theorem TaskOK.congr (h : TaskOK b) (ht : b'.manager.task = b.manager.task)
    (hb : b'.begun = b.begun) (he : b'.ended = b.ended) : TaskOK b' := by
  obtain ⟨h1, h2, h3, h4⟩ := h
  refine ⟨?_, ?_, ?_, ?_⟩
  · unfold IsOpen; rw [ht, hb, he]; exact h1
  · rw [hb, he]; exact h2
  · rw [hb]; exact h3
  · rw [he]; exact h4

theorem Accounted.congr (h : Accounted b) (ht : b'.manager.task = b.manager.task)
    (hb : b'.begun = b.begun) (he : b'.ended = b.ended)
    (hs : b'.Stopped → b.Stopped) : Accounted b' := by
  obtain ⟨h1, h2, h3⟩ := h
  have ho : ∀ id, b'.IsOpen id ↔ b.IsOpen id := fun id => by unfold IsOpen; rw [hb, he]
  refine ⟨fun id hid => ?_, fun id hid => ?_, fun hst id hid => ?_⟩
  · rw [ht]; exact h1 id ((ho id).1 hid)
  · rw [he]; exact h2 id (hb ▸ hid)
  · exact h3 (hs hst) id ((ho id).1 hid)

/-! ## Ending the task -/

theorem TaskOK.endTask (h : TaskOK b) (hr : b.manager.task ≠ UIBackgroundTaskInvalid) :
    TaskOK b.endTask := by
  refine ⟨fun hne => absurd rfl hne, fun id hid hv => ?_, h.valid, fun id hv => ?_⟩
  · rcases List.mem_append.1 hid with hid | hid
    · exact h.begun id hid hv
    · rw [List.mem_singleton.1 hid]; exact (h.isOpen hr).1
  · change (b.ended ++ [b.manager.task]).count id ≤ 1
    rw [List.count_append]
    by_cases hid : id = b.manager.task
    · -- the identifier in the field has not been ended before
      subst hid
      rw [List.count_eq_zero.2 (h.isOpen hr).2, List.count_singleton_self]
    · rw [List.count_singleton, if_neg (by simpa using Ne.symm hid)]
      exact h.once id hv

/-- Ending an empty field ends nothing: the system is handed the invalid identifier. -/
theorem TaskOK.endNone (h : TaskOK b) (hr : b.manager.task = UIBackgroundTaskInvalid) :
    TaskOK b.endTask := by
  refine ⟨fun hne => absurd rfl hne, fun id hid hv => ?_, h.valid, fun id hv => ?_⟩
  · rcases List.mem_append.1 hid with hid | hid
    · exact h.begun id hid hv
    · exact absurd ((List.mem_singleton.1 hid).trans hr) hv
  · change (b.ended ++ [b.manager.task]).count id ≤ 1
    rw [List.count_append, List.count_singleton, if_neg (by simpa [hr] using Ne.symm hv)]
    exact h.once id hv

theorem TaskOK.ends (h : TaskOK b) : TaskOK b.endTask := by
  by_cases hr : b.manager.task = UIBackgroundTaskInvalid
  · exact h.endNone hr
  · exact h.endTask hr

/-- **Once the field has been ended, nothing it was accountable for is open.** -/
theorem Accounted.endTask (h : TaskOK b) (ha : Accounted b) :
    Accounted b.endTask ∧ ∀ id, ¬ b.endTask.IsOpen id := by
  have hclosed : ∀ id, ¬ b.endTask.IsOpen id := by
    rintro id ⟨hb, he⟩
    have hne : id ∉ b.ended := fun h => he (List.mem_append_left _ h)
    have htask := ha.held id ⟨hb, hne⟩
    exact he (List.mem_append_right _ (List.mem_singleton.2 htask))
  exact ⟨⟨fun id hid => absurd hid (hclosed id), fun id hid => h.ends.once id (h.valid id hid),
    fun _ => hclosed⟩, hclosed⟩

/-! ## Beginning a task -/

theorem TaskOK.apply (h : TaskOK b) (ids : IdentifierSource) : TaskOK (b.applyforBackgroundTask ids) := by
  have hnew : ids.next b.begun ∉ b.ended := fun he =>
    ids.fresh b.begun (h.begun _ he (ids.valid b.begun))
  refine ⟨fun _ => ⟨List.mem_append_right _ (List.mem_singleton_self _), hnew⟩,
    fun id hid hv => List.mem_append_left _ (h.begun id hid hv), fun id hid => ?_, h.once⟩
  rcases List.mem_append.1 hid with hid | hid
  · exact h.valid id hid
  · rw [List.mem_singleton.1 hid]; exact ids.valid b.begun

/-- **A new identifier is accounted for exactly when it replaces none.** `b'` is the state it
leaves, whatever the call it belongs to. -/
theorem accounted_apply_iff (ids : IdentifierSource) (h : TaskOK b) (ha : Accounted b)
    (ht : b'.manager.task = ids.next b.begun) (hb : b'.begun = b.begun ++ [ids.next b.begun])
    (he : b'.ended = b.ended) :
    Accounted b' ↔ b.manager.task = UIBackgroundTaskInvalid ∧ ¬ b'.Stopped := by
  have hopen : b'.IsOpen (ids.next b.begun) := by
    refine ⟨?_, ?_⟩
    · rw [hb]; exact List.mem_append_right _ (List.mem_singleton_self _)
    · rw [he]; exact fun hm => ids.fresh b.begun (h.begun _ hm (ids.valid b.begun))
  constructor
  · intro ha'
    refine ⟨?_, fun hs => ha'.stopped hs _ hopen⟩
    by_contra hne
    -- the identifier that was in the field is still open, and no longer there
    have hold := h.isOpen hne
    have hold' : b'.IsOpen b.manager.task :=
      ⟨by rw [hb]; exact List.mem_append_left _ hold.1, by rw [he]; exact hold.2⟩
    have heq := ha'.held _ hold'
    rw [ht] at heq
    exact ids.fresh b.begun (heq ▸ hold.1)
  · rintro ⟨hnone, hs⟩
    refine ⟨fun id hid => ?_, fun id hid => ?_, fun hst => absurd hst hs⟩
    · obtain ⟨hm, hne⟩ := hid
      rw [hb] at hm
      rw [he] at hne
      rcases List.mem_append.1 hm with hm | hm
      · have := ha.held id ⟨hm, hne⟩
        exact absurd (this.trans hnone) (h.valid id hm)
      · rw [ht]; exact List.mem_singleton.1 hm
    · rw [he]
      rw [hb] at hid
      rcases List.mem_append.1 hid with hid | hid
      · exact ha.once id hid
      · rw [List.mem_singleton.1 hid]
        exact h.once _ (ids.valid b.begun)

/-! ## Steps and runs -/

/-- What `stopBGRun` does to the identifiers. -/
theorem stopBGRun_accounts (b : BackTask) :
    b.stopBGRun.begun = b.begun ∧ b.stopBGRun.manager.task = UIBackgroundTaskInvalid ∧
      b.stopBGRun.ended =
        if b.manager.task = UIBackgroundTaskInvalid then b.ended else b.ended ++ [b.manager.task] := by
  unfold stopBGRun
  cases b.manager.timerAD with
  | none =>
    by_cases hr : b.manager.task = UIBackgroundTaskInvalid
    · simp [hr]
    · simp [hr, BackTask.endTask]
  | some timerAD =>
    by_cases hr : b.manager.task = UIBackgroundTaskInvalid
    · simp [hr, runLoopStop, invalidate]
    · simp [hr, BackTask.endTask, runLoopStop, invalidate]

theorem TaskOK.stop (h : TaskOK b) : TaskOK b.stopBGRun := by
  obtain ⟨hb, ht, he⟩ := stopBGRun_accounts b
  by_cases hr : b.manager.task = UIBackgroundTaskInvalid
  · rw [if_pos hr] at he
    exact h.congr (ht.trans hr.symm) hb he
  · rw [if_neg hr] at he
    exact (h.endTask hr).congr ht hb he

theorem Accounted.stop (h : TaskOK b) (ha : Accounted b) : Accounted b.stopBGRun := by
  obtain ⟨hb, ht, he⟩ := stopBGRun_accounts b
  have hclosed : ∀ id, ¬ b.stopBGRun.IsOpen id := by
    intro id hid
    unfold IsOpen at hid
    rw [hb, he] at hid
    by_cases hr : b.manager.task = UIBackgroundTaskInvalid
    · rw [if_pos hr] at hid
      exact h.valid id hid.1 ((ha.held id hid).trans hr)
    · rw [if_neg hr] at hid
      exact (Accounted.endTask h ha).2 id hid
  exact ⟨fun id hid => absurd hid (hclosed id),
    fun id hid => h.stop.once id (h.valid id (hb ▸ hid)), fun _ => hclosed⟩

theorem runSerial_accounts (b : BackTask) :
    b.runSerial.manager.task = b.manager.task ∧ b.runSerial.begun = b.begun ∧
      b.runSerial.ended = b.ended ∧ b.runSerial.calls = b.calls := by
  unfold runSerial runStartBlock
  split <;> exact ⟨rfl, rfl, rfl, rfl⟩

theorem taskOK_step {ev : Event} (h : TaskOK b) (hs : b.step ids ev = some b') : TaskOK b' := by
  cases ev with
  | startBGRun =>
    obtain rfl := Option.some.inj hs
    exact (h.apply ids).congr rfl rfl rfl
  | stopBGRun =>
    obtain rfl := Option.some.inj hs
    exact h.stop
  | runSerial =>
    obtain rfl := Option.some.inj hs
    obtain ⟨ht, hb, he, -⟩ := runSerial_accounts b
    exact h.congr ht hb he
  | timerFires =>
    obtain rfl := Option.some.inj hs
    exact h.congr rfl rfl rfl
  | taskExpires =>
    obtain rfl := Option.some.inj hs
    exact h.congr rfl rfl rfl
  | runMain backgroundTimeRemaining =>
    obtain rfl := Option.some.inj hs
    unfold runMain
    split
    · exact h
    · exact h.ends.congr rfl rfl rfl
    · dsimp only
      split_ifs
      · exact (h.apply ids).congr rfl rfl rfl
      · exact h.congr rfl rfl rfl

/-- **One step keeps the accounts exactly under the condition.** -/
theorem accounted_step_iff {ev : Event} (h : TaskOK b) (ha : Accounted b)
    (hs : b.step ids ev = some b') : Accounted b' ↔ RenewsEmpty b ev := by
  cases ev with
  | startBGRun =>
    obtain rfl := Option.some.inj hs
    have hstart : ¬ (b.startBGRun ids).Stopped := by
      simp [Stopped, startBGRun]
    have hiff : Accounted (b.startBGRun ids) ↔ _ := accounted_apply_iff ids h ha rfl rfl rfl
    rw [hiff]
    exact and_iff_left hstart
  | stopBGRun =>
    obtain rfl := Option.some.inj hs
    exact iff_of_true (ha.stop h) trivial
  | runSerial =>
    obtain rfl := Option.some.inj hs
    obtain ⟨ht, hb, he, hc⟩ := runSerial_accounts b
    refine iff_of_true (ha.congr ht hb he fun hst => ?_) trivial
    unfold Stopped at hst ⊢
    rwa [hc] at hst
  | timerFires =>
    obtain rfl := Option.some.inj hs
    exact iff_of_true (ha.congr rfl rfl rfl fun hst => hst) trivial
  | taskExpires =>
    obtain rfl := Option.some.inj hs
    exact iff_of_true (ha.congr rfl rfl rfl fun hst => hst) trivial
  | runMain backgroundTimeRemaining =>
    obtain rfl := Option.some.inj hs
    unfold runMain RenewsEmpty
    -- an empty queue, the end of the task, and a timer that may renew it
    split
    · rename_i hq
      exact iff_of_true ha fun rest hq' => by rw [hq] at hq'; cases hq'
    · rename_i rest hq
      refine iff_of_true ((ha.endTask h).1.congr rfl rfl rfl fun hst => hst) fun rest hq' => ?_
      rw [hq] at hq'; cases hq'
    · rename_i rest hq
      dsimp only
      split_ifs with hlate
      · have hiff : Accounted ({ b with mainQueue := rest }.applyforBackgroundTask ids) ↔ _ :=
          accounted_apply_iff ids h ha rfl rfl rfl
        rw [hiff]
        constructor
        · intro hcond _ _ _
          exact hcond
        · intro hcond
          exact hcond rest hq hlate
      · refine iff_of_true (ha.congr rfl rfl rfl fun hst => hst) fun _ _ hlt => ?_
        exact absurd hlt hlate

theorem taskOK_init : TaskOK init := by
  refine ⟨fun h => absurd rfl h, ?_, ?_, ?_⟩ <;> simp [init]

theorem accounted_init : Accounted init := by
  refine ⟨?_, ?_, ?_⟩ <;> simp [init, IsOpen]

/-- **The identifiers of a run are accounted for throughout exactly when every start and every
renewal finds the field empty, and no renewal comes after a stop.** -/
theorem accounted_iff {h : List (BackTask × Event)} (hr : Run (step ids) init h b) :
    ((∀ q ∈ h, Accounted q.1) ∧ Accounted b) ↔ ∀ q ∈ h, RenewsEmpty q.1 q.2 :=
  hr.always_iff taskOK_init accounted_init (fun _ _ _ => taskOK_step)
    fun _ _ _ h ha => accounted_step_iff h ha

/-- A start, the expiration of its task, and a stop. -/
theorem accounted_one_start :
    ∃ b, exec (step .counting) init [.startBGRun, .taskExpires, .runMain 100, .stopBGRun] = some b ∧
      b.begun = [1] ∧ Accounted b := by
  have hr : Run (step .counting) init _ _ := run_of_exec
    ([.startBGRun, .taskExpires, .runMain 100, .stopBGRun] : List Event) rfl
  refine ⟨_, rfl, rfl, ((accounted_iff hr).2 ?_).2⟩
  exact forall_visited_cons rfl rfl (forall_visited_cons trivial rfl
    (forall_visited_cons (fun _ hq => by cases hq) rfl
      (forall_visited_cons trivial rfl forall_visited_nil)))

/-- **A task is forgotten.** The keep-alive timer of a running manager fires with half a
minute left: the renewal opens a second identifier, and the stop ends only that. -/
theorem task_forgotten :
    ∃ b, exec (step .counting) init
        [.startBGRun, .runSerial, .timerFires, .runMain 30, .stopBGRun] = some b ∧
      b.begun = [1, 2] ∧ b.ended = [2] ∧ b.IsOpen 1 ∧ b.Stopped ∧ ¬ Accounted b := by
  have hopen : ∀ b : BackTask, b.begun = [1, 2] → b.ended = [2] → b.IsOpen 1 := by
    intro b hb he
    unfold IsOpen
    rw [hb, he]
    decide
  obtain ⟨b, hb, h1, h2, h3⟩ : ∃ b, exec (step .counting) init
      [.startBGRun, .runSerial, .timerFires, .runMain 30, .stopBGRun] = some b ∧
      b.begun = [1, 2] ∧ b.ended = [2] ∧ b.Stopped := by
    have hlate : (30 : ℚ) < 61 := by decide +kernel
    simp [exec, step, runMain, hlate, startBGRun, runSerial, runStartBlock, applyforBackgroundTask,
      stopBGRun, init, IdentifierSource.counting, Stopped, runLoopStop, invalidate, endTask, UIBackgroundTaskInvalid]
  exact ⟨b, hb, h1, h2, hopen b h1 h2, h3, fun ha => ha.stopped h3 1 (hopen b h1 h2)⟩

end BackTask

end RCSdk
