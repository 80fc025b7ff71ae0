import RCSdk.Lib.Run
import RCSdk.Spec.KeepBGRun

/-!
# What a stop leaves running

The timers of the keep-alive manager are created by a block of the serial queue, which then
occupies it. `stopBGRun` finds them only once that block has begun.

* `timersOK` (every run): the timers that are valid are those in the fields, they belong to the
  block that occupies the queue, and there are none when no block does.
* `still_iff`: after a last stop, once the queue has nothing left that can run, the manager is
  still exactly when no block waited on the queue at that stop.
* `stopped_too_early`: a stop that comes before the block leaves the timers running for good.
-/

namespace RCSdk

open Trans

namespace BackTask

/-- The queue has no block left that can run: none waits, or one occupies it. -/
def Quiescent (b : BackTask) : Prop := b.waiting = 0 ∨ b.running ≠ none

/-- **The manager is still**: no timer is scheduled on a running run loop, and the fields are
empty. -/
structure Still (b : BackTask) : Prop where
  scheduled : ∀ t ∈ b.scheduled, b.running ≠ some t.runLoop
  timerAD : b.manager.timerAD = none
  timerLog : b.manager.timerLog = none

/-- The timers of a state in which nothing occupies the queue, or block `r` does. -/
def TimersOK (b : BackTask) : Prop :=
  match b.running with
  | none => b.manager.timerAD = none ∧ b.manager.timerLog = none ∧ b.scheduled = []
  | some r => b.manager.timerAD = some ⟨.keepAlive, r⟩ ∧ b.manager.timerLog = some ⟨.log, r⟩ ∧
      b.manager.runloopRef = some r ∧ b.scheduled = [⟨.keepAlive, r⟩, ⟨.log, r⟩]

/-- The blocks that have been put on the queue and have not ended. -/
def pending (b : BackTask) : ℕ := b.waiting + if b.running = none then 0 else 1

/-- An event that is no call of the manager. -/
def Event.isCall : Event → Bool
  | .startBGRun | .stopBGRun => true
  | .runSerial | .timerFires | .taskExpires | .runMain _ => false

variable {ids : IdentifierSource} {b b' : BackTask} {ev : Event}

theorem TimersOK.idle (h : TimersOK b) (hr : b.running = none) :
    b.manager.timerAD = none ∧ b.manager.timerLog = none ∧ b.scheduled = [] := by
  unfold TimersOK at h
  rwa [hr] at h

theorem TimersOK.occupied (h : TimersOK b) {r : CFRunLoopRef} (hr : b.running = some r) :
    b.manager.timerAD = some ⟨.keepAlive, r⟩ ∧ b.manager.timerLog = some ⟨.log, r⟩ ∧
      b.manager.runloopRef = some r ∧ b.scheduled = [⟨.keepAlive, r⟩, ⟨.log, r⟩] := by
  unfold TimersOK at h
  rwa [hr] at h

theorem TimersOK.congr (h : TimersOK b) (hr : b'.running = b.running)
    (hs : b'.scheduled = b.scheduled) (ha : b'.manager.timerAD = b.manager.timerAD)
    (hl : b'.manager.timerLog = b.manager.timerLog)
    (href : b'.manager.runloopRef = b.manager.runloopRef) : TimersOK b' := by
  unfold TimersOK at h ⊢
  rw [hr, hs, ha, hl, href]
  exact h

/-- **A stop frees the queue** and empties the fields; the blocks that wait go on waiting. -/
theorem TimersOK.stop (h : TimersOK b) :
    TimersOK b.stopBGRun ∧ b.stopBGRun.running = none ∧ b.stopBGRun.waiting = b.waiting := by
  have hfields : b.stopBGRun.running = none ∧ b.stopBGRun.waiting = b.waiting ∧
      b.stopBGRun.manager.timerAD = none ∧ b.stopBGRun.manager.timerLog = none ∧
      b.stopBGRun.scheduled = [] := by
    unfold stopBGRun
    cases hr : b.running with
    | none =>
      obtain ⟨ha, hl, hs⟩ := h.idle hr
      simp only [ha]
      split_ifs <;> exact ⟨hr, rfl, ha, hl, hs⟩
    | some r =>
      obtain ⟨ha, hl, href, hs⟩ := h.occupied hr
      simp only [ha, runLoopStop, invalidate, hr, href, hl, hs]
      split_ifs <;> simp [endTask]
  obtain ⟨h1, h2, h3, h4, h5⟩ := hfields
  refine ⟨?_, h1, h2⟩
  unfold TimersOK
  rw [h1]
  exact ⟨h3, h4, h5⟩

/-- The serial queue runs a block only when nothing occupies it. -/
theorem TimersOK.serial (h : TimersOK b) : TimersOK b.runSerial ∧ b.runSerial.pending = b.pending := by
  unfold runSerial pending
  split
  · rename_i n hr hw
    obtain ⟨ha, hl, hs⟩ := h.idle hr
    refine ⟨⟨rfl, rfl, rfl, ?_⟩, ?_⟩
    · simp only [runStartBlock, hs, List.nil_append]
    · simp [runStartBlock, hw, hr]
  · exact ⟨h, rfl⟩

theorem runMain_frame (ids : IdentifierSource) (remaining : ℚ) (b : BackTask) :
    (b.runMain ids remaining).running = b.running ∧ (b.runMain ids remaining).waiting = b.waiting ∧
      (b.runMain ids remaining).scheduled = b.scheduled ∧
      (b.runMain ids remaining).manager.timerAD = b.manager.timerAD ∧
      (b.runMain ids remaining).manager.timerLog = b.manager.timerLog ∧
      (b.runMain ids remaining).manager.runloopRef = b.manager.runloopRef := by
  unfold runMain
  split
  · exact ⟨rfl, rfl, rfl, rfl, rfl, rfl⟩
  · exact ⟨rfl, rfl, rfl, rfl, rfl, rfl⟩
  · dsimp only
    split_ifs <;> exact ⟨rfl, rfl, rfl, rfl, rfl, rfl⟩

/-- **What is no call keeps the timers in order and adds no block.** -/
theorem quiet_step (h : TimersOK b) (hs : b.step ids ev = some b') (hc : ev.isCall = false) :
    TimersOK b' ∧ b'.pending = b.pending := by
  cases ev with
  | startBGRun => simp [Event.isCall] at hc
  | stopBGRun => simp [Event.isCall] at hc
  | runSerial =>
    obtain rfl := Option.some.inj hs
    exact h.serial
  | timerFires =>
    obtain rfl := Option.some.inj hs
    exact ⟨h.congr rfl rfl rfl rfl rfl, rfl⟩
  | taskExpires =>
    obtain rfl := Option.some.inj hs
    exact ⟨h.congr rfl rfl rfl rfl rfl, rfl⟩
  | runMain remaining =>
    obtain rfl := Option.some.inj hs
    obtain ⟨h1, h2, h3, h4, h5, h6⟩ := runMain_frame ids remaining b
    refine ⟨h.congr h1 h3 h4 h5 h6, ?_⟩
    unfold pending
    rw [h1, h2]

theorem timersOK_step (h : TimersOK b) (hs : b.step ids ev = some b') : TimersOK b' := by
  cases hc : ev.isCall with
  | false => exact (quiet_step h hs hc).1
  | true =>
    cases ev with
    | startBGRun =>
      obtain rfl := Option.some.inj hs
      exact h.congr rfl rfl rfl rfl rfl
    | stopBGRun =>
      obtain rfl := Option.some.inj hs
      exact h.stop.1
    | runSerial => simp [Event.isCall] at hc
    | timerFires => simp [Event.isCall] at hc
    | taskExpires => simp [Event.isCall] at hc
    | runMain remaining => simp [Event.isCall] at hc

theorem timersOK_init : TimersOK init := by
  unfold TimersOK
  exact ⟨rfl, rfl, rfl⟩

theorem timersOK {h : List (BackTask × Event)} (hr : Run (step ids) init h b) : TimersOK b :=
  hr.invariant timersOK_init fun _ _ _ hb hs => timersOK_step hb hs

/-- A manager is still exactly when nothing occupies the queue. -/
theorem TimersOK.still_idle_iff (h : TimersOK b) : Still b ↔ b.running = none := by
  constructor
  · intro hs
    cases hr : b.running with
    | none => rfl
    | some r =>
      have ha := (h.occupied hr).1
      rw [hs.timerAD] at ha
      simp at ha
  · intro hr
    obtain ⟨ha, hl, hs⟩ := h.idle hr
    exact ⟨fun t ht => by simp [hs] at ht, ha, hl⟩

/-- **Stop means stopped exactly when no block waited.** `s` is the state at the last call, a
stop; after it the main queue, the serial queue and the system may do anything. -/
theorem still_iff {h₁ h₂ : List (BackTask × Event)} {s : BackTask}
    (hr : Run (step ids) init (h₁ ++ (s, .stopBGRun) :: h₂) b)
    (hlast : ∀ q ∈ h₂, q.2.isCall = false) (hq : b.Quiescent) : Still b ↔ s.waiting = 0 := by
  obtain ⟨s', hr₁, hr₂⟩ := hr.split
  obtain ⟨rfl, u, hst, hr₃⟩ := hr₂.first
  have hs : TimersOK s := timersOK hr₁
  obtain rfl := Option.some.inj hst
  obtain ⟨hstop, hfree, hwait⟩ := hs.stop
  have hpend : s.stopBGRun.pending = s.waiting := by
    unfold pending
    rw [hfree, if_pos rfl, hwait, Nat.add_zero]
  have hb : TimersOK b ∧ b.pending = s.waiting :=
    hr₃.invariant_of (P := fun b => TimersOK b ∧ b.pending = s.waiting)
      (C := fun _ ev => ev.isCall = false) ⟨hstop, hpend⟩
      (fun _ _ _ hb hc hs => by
        obtain ⟨h1, h2⟩ := quiet_step hb.1 hs hc
        exact ⟨h1, h2.trans hb.2⟩) hlast
  obtain ⟨hok, hn⟩ := hb
  rw [hok.still_idle_iff]
  unfold pending at hn
  constructor
  · intro hnone
    rw [hnone, if_pos rfl] at hn
    rcases hq with hw | hne
    · omega
    · exact absurd hnone hne
  · intro h0
    by_contra hne
    rw [if_neg hne] at hn
    omega

/-- A start whose block has begun before the stop. -/
theorem still_after_block :
    ∃ b, exec (step .counting) init [.startBGRun, .runSerial, .stopBGRun, .runSerial] = some b ∧
      Still b := by
  have hr : Run (step .counting) init ([_, _] ++ _ :: [_]) _ := run_of_exec
    ([.startBGRun, .runSerial, .stopBGRun, .runSerial] : List Event) rfl
  refine ⟨_, rfl, (still_iff hr ?_ (Or.inl rfl)).2 rfl⟩
  intro q hq
  rw [List.mem_singleton.1 hq]
  rfl

/-- **Stopped too early.** The stop comes before the block of the start has begun: it finds no
timer, and the block then schedules both for good. -/
theorem stopped_too_early :
    ∃ b, exec (step .counting) init [.startBGRun, .stopBGRun, .runSerial] = some b ∧
      b.calls = [.startBGRun, .stopBGRun] ∧ b.Quiescent ∧ b.running = some 0 ∧
      b.scheduled = [⟨.keepAlive, 0⟩, ⟨.log, 0⟩] ∧ ¬ Still b := by
  refine ⟨_, rfl, rfl, Or.inl rfl, rfl, rfl, fun h => ?_⟩
  exact absurd h.timerAD (by decide)

end BackTask

end RCSdk
