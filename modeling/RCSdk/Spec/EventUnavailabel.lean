import Mathlib.Algebra.Order.Ring.Unbundled.Rat
import Mathlib.Data.Rat.Defs

/-!
# A button that rests after an event (`UIButton+EventUnavailabel.m`)

`load` puts `qi_sendAction:to:forEvent:` in the place of `sendAction:to:forEvent:` for every button.
A control calls it once for each registered pair whose events include the one that happens, in
order. Time is exact. The run loop makes a delayed call at the begin of the first pass at its time
or later, so never within the pass that has asked for it.
-/

namespace RCSdk

namespace EventUnavailabel

abbrev UIControlEvents := BitVec 64

def UIControlEventTouchDown : UIControlEvents := 1#64 <<< 0

def UIControlEventTouchDragOutside : UIControlEvents := 1#64 <<< 3

def UIControlEventTouchUpInside : UIControlEvents := 1#64 <<< 6

def UIControlEventTouchCancel : UIControlEvents := 1#64 <<< 8

/-- An action sent to a target. -/
structure Delivery where
  target : ℕ
  action : String
  deriving DecidableEq, Repr

/-- A pair that `addTarget:action:forControlEvents:` has registered. -/
structure Registration where
  target : ℕ
  action : String
  controlEvents : UIControlEvents
  deriving DecidableEq, Repr

structure UIButton where
  qi_eventInterval : ℚ
  eventUnavailable : Bool
  /-- When the delayed calls of `setEventUnavailable:` are due. -/
  delayed : List ℚ
  deriving DecidableEq

/-- A button that no event has reached. -/
def UIButton.fresh (qi_eventInterval : ℚ) : UIButton := ⟨qi_eventInterval, false, []⟩

/-- The delayed calls that are due: each sets `eventUnavailable` to `NO`. -/
def UIButton.performDelayed (b : UIButton) (now : ℚ) : UIButton :=
  { b with
    eventUnavailable := if b.delayed.any (· ≤ now) then false else b.eventUnavailable
    delayed := b.delayed.filter (now < ·) }

/-- What is called for a delivery, at a time. -/
abbrev SendAction := ℚ → UIButton → Delivery → UIButton × List Delivery

/-- `sendAction:to:forEvent:` of `UIControl`. -/
def sendAction : SendAction := fun _ b delivery => (b, [delivery])

/-- `qi_sendAction:to:forEvent:`. The implementations are exchanged, so it calls the other under its
own name. -/
def qi_sendAction : SendAction := fun now b delivery =>
  if b.eventUnavailable = false then
    let b := { b with eventUnavailable := true }
    let (b, delivered) := sendAction now b delivery
    ({ b with delayed := b.delayed ++ [now + b.qi_eventInterval] }, delivered)
  else (b, [])

/-- The pairs an event is for. -/
def targetsFor (registrations : List Registration) (event : UIControlEvents) : List Delivery :=
  (registrations.filter fun r => r.controlEvents &&& event ≠ 0).map fun r => ⟨r.target, r.action⟩

/-- What `buildKeyBoard` registers for each key of the digital keyboard. -/
def keyTargets (keyBoard : ℕ) : List Registration :=
  [⟨keyBoard, "buttonAction:", UIControlEventTouchUpInside⟩,
    ⟨keyBoard, "buttonDown:", UIControlEventTouchDown⟩,
    ⟨keyBoard, "buttonCancel:", UIControlEventTouchCancel ||| UIControlEventTouchDragOutside⟩]

/-- A pass of the run loop: its time, and the control events that a touch brings in it. -/
structure Pass where
  time : ℚ
  events : List UIControlEvents
  deriving DecidableEq

/-- What is sent in a pass. -/
def Pass.sends (p : Pass) (registrations : List Registration) : List Delivery :=
  p.events.flatMap (targetsFor registrations)

/-- A tap: its passes, in the order of time. -/
structure Tap where
  first : Pass
  later : List Pass
  ordered : (first :: later).Pairwise fun p q => p.time ≤ q.time

namespace Tap

def passes (t : Tap) : List Pass := t.first :: t.later

/-- When the tap starts. -/
def started (t : Tap) : ℚ := t.first.time

/-- When the tap ends. -/
def ended (t : Tap) : ℚ := (t.passes.getLast (List.cons_ne_nil _ _)).time

end Tap

/-- One call after the other. -/
def sendAll (send : SendAction) (now : ℚ) : UIButton → List Delivery → UIButton × List Delivery
  | b, [] => (b, [])
  | b, delivery :: rest =>
    let (b, delivered) := send now b delivery
    let (b, others) := sendAll send now b rest
    (b, delivered ++ others)

/-- The button after some passes, with all that has been delivered in them. -/
def handle (send : SendAction) (registrations : List Registration) :
    UIButton → List Pass → UIButton × List Delivery
  | b, [] => (b, [])
  | b, p :: ps =>
    let (b, delivered) := sendAll send p.time (b.performDelayed p.time) (p.sends registrations)
    let (b, others) := handle send registrations b ps
    (b, delivered ++ others)

/-- The button after some taps, with all that has been delivered. -/
def handleTaps (send : SendAction) (registrations : List Registration) (b : UIButton)
    (taps : List Tap) : UIButton × List Delivery :=
  handle send registrations b (taps.flatMap Tap.passes)

end EventUnavailabel

end RCSdk
