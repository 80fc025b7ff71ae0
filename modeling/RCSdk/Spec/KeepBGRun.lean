import Mathlib.Data.List.Basic
import Mathlib.Data.Rat.Defs
import Mathlib.Algebra.Order.Ring.Unbundled.Rat
import Mathlib.Algebra.Order.BigOperators.Group.List
import Mathlib.Algebra.Order.Group.Nat
import Mathlib.Algebra.GroupWithZero.Nat

/-!
# Keeping the app running in the background (`RCKeepBGRunManager.m`)

The manager holds one background task identifier, and two timers that a block on its private
serial queue creates and then runs a run loop for. Calls, expiration handlers and renewals run
on the main thread; a run is any interleaving of them with the serial queue. A block on the
serial queue runs without interruption up to `CFRunLoopRun`, and occupies the queue until its
run loop is stopped.
-/

namespace RCSdk

/-- `UIBackgroundTaskIdentifier`. -/
abbrev UIBackgroundTaskIdentifier := ℕ

def UIBackgroundTaskInvalid : UIBackgroundTaskIdentifier := 0

/-- How the system chooses the next identifier: a new one, and not the invalid one. -/
structure IdentifierSource where
  next : List UIBackgroundTaskIdentifier → UIBackgroundTaskIdentifier
  fresh : ∀ begun, next begun ∉ begun
  valid : ∀ begun, next begun ≠ UIBackgroundTaskInvalid

/-- Identifiers that count up. -/
def IdentifierSource.counting : IdentifierSource where
  next begun := begun.sum + 1
  fresh begun hm := by
    have := List.single_le_sum (fun _ _ => Nat.zero_le _) _ hm
    omega
  valid _ := Nat.succ_ne_zero _

/-- A run loop, by identity: the `n`-th block of the serial queue runs in the `n`-th. -/
abbrev CFRunLoopRef := ℕ

inductive TimerKind where
  | log
  | keepAlive
  deriving DecidableEq, Repr

/-- A timer, by identity: what it is for and the run loop it was added to. -/
structure NSTimer where
  kind : TimerKind
  runLoop : CFRunLoopRef
  deriving DecidableEq, Repr

/-- The fields of `RCKeepBGRunManager`. -/
structure RCKeepBGRunManager where
  task : UIBackgroundTaskIdentifier
  timerAD : Option NSTimer
  timerLog : Option NSTimer
  runloopRef : Option CFRunLoopRef

/-- A block of the main queue. -/
inductive BackTaskBlock where
  | expiration
  | startAudioPlay
  deriving DecidableEq, Repr

/-- A call of the manager. -/
inductive BackTaskCall where
  | startBGRun
  | stopBGRun
  deriving DecidableEq, Repr

/-- The manager and the system around it: the identifiers begun and ended so far, the blocks
of the main queue, the timers that are valid, the blocks that wait on the serial queue, the
run loop of the block that occupies it, how many blocks it has run, and the calls so far. -/
structure BackTask where
  manager : RCKeepBGRunManager
  begun : List UIBackgroundTaskIdentifier
  ended : List UIBackgroundTaskIdentifier
  mainQueue : List BackTaskBlock
  scheduled : List NSTimer
  waiting : ℕ
  running : Option CFRunLoopRef
  runLoops : ℕ
  calls : List BackTaskCall

namespace BackTask

def init : BackTask where
  manager := ⟨UIBackgroundTaskInvalid, none, none, none⟩
  begun := []
  ended := []
  mainQueue := []
  scheduled := []
  waiting := 0
  running := none
  runLoops := 0
  calls := []

/-- `endBackgroundTask:_task`, and the field cleared. -/
def endTask (b : BackTask) : BackTask :=
  { b with
    ended := b.ended ++ [b.manager.task]
    manager := { b.manager with task := UIBackgroundTaskInvalid } }

/-- `applyforBackgroundTask`. -/
def applyforBackgroundTask (ids : IdentifierSource) (b : BackTask) : BackTask :=
  let identifier := ids.next b.begun
  { b with
    begun := b.begun ++ [identifier]
    -- whatever identifier the field held is forgotten
    manager := { b.manager with task := identifier } }

/-- `startBGRun`: a task now, and a block on the serial queue. -/
def startBGRun (ids : IdentifierSource) (b : BackTask) : BackTask :=
  let b := b.applyforBackgroundTask ids
  { b with waiting := b.waiting + 1, calls := b.calls ++ [.startBGRun] }

/-- `CFRunLoopStop`. -/
def runLoopStop (runLoop : Option CFRunLoopRef) (b : BackTask) : BackTask :=
  { b with running := if b.running = runLoop then none else b.running }

/-- `[timer invalidate]`, nothing for `nil`. -/
def invalidate (timer : Option NSTimer) (b : BackTask) : BackTask :=
  { b with scheduled := b.scheduled.filter fun t => some t ≠ timer }

/-- `stopBGRun`. -/
def stopBGRun (b : BackTask) : BackTask :=
  let b :=
    match b.manager.timerAD with
    | some _ =>
      let b := b.runLoopStop b.manager.runloopRef
      let b := b.invalidate b.manager.timerLog
      let b := { b with manager := { b.manager with timerLog := none } }
      let b := b.invalidate b.manager.timerAD
      { b with manager := { b.manager with timerAD := none } }
    | none => b
  let b := if b.manager.task ≠ UIBackgroundTaskInvalid then b.endTask else b
  { b with calls := b.calls ++ [.stopBGRun] }

/-- The block of `startBGRun`, up to `CFRunLoopRun`. -/
def runStartBlock (b : BackTask) : BackTask :=
  let runLoop := b.runLoops
  let timerLog : NSTimer := ⟨.log, runLoop⟩
  let timerAD : NSTimer := ⟨.keepAlive, runLoop⟩
  { b with
    manager := { b.manager with timerLog, timerAD, runloopRef := runLoop }
    scheduled := b.scheduled ++ [timerAD, timerLog]
    running := runLoop
    runLoops := b.runLoops + 1 }

/-- The serial queue runs its next block, if it has one and none occupies it. -/
def runSerial (b : BackTask) : BackTask :=
  match b.running, b.waiting with
  | none, n + 1 => { b with waiting := n }.runStartBlock
  | _, _ => b

/-- The main queue runs its first block, with this much background time remaining. -/
def runMain (ids : IdentifierSource) (backgroundTimeRemaining : ℚ) (b : BackTask) : BackTask :=
  match b.mainQueue with
  | [] => b
  | .expiration :: rest => { b with mainQueue := rest }.endTask
  | .startAudioPlay :: rest =>
    let b := { b with mainQueue := rest }
    if backgroundTimeRemaining < 61 then b.applyforBackgroundTask ids else b

/-- The events of a run. -/
inductive Event where
  | startBGRun
  | stopBGRun
  | runSerial
  | timerFires
  | taskExpires
  | runMain (backgroundTimeRemaining : ℚ)

/-- One event. The keep-alive timer and the expiration handler each put a block on the main
queue. -/
def step (ids : IdentifierSource) (b : BackTask) : Event → Option BackTask
  | .startBGRun => some (b.startBGRun ids)
  | .stopBGRun => some b.stopBGRun
  | .runSerial => some b.runSerial
  | .timerFires => some { b with mainQueue := b.mainQueue ++ [.startAudioPlay] }
  | .taskExpires => some { b with mainQueue := b.mainQueue ++ [.expiration] }
  | .runMain backgroundTimeRemaining => some (b.runMain ids backgroundTimeRemaining)

end BackTask

end RCSdk
