/-
This file holds the pauses of the sender. While it sleeps the others go on: the
listener gets what arrives, and the user makes the next keystrokes.
-/

import KeyFeed.Echo
import KeyFeed.Keyboard.Console
import KeyFeed.Number.Decimal
import KeyFeed.Number.Real

namespace KeyFeed

open KeyFeed.Run

/-- The lengths of the pauses, in seconds. -/
structure Pacing where
  /-- After each character of a script. -/
  perCharacter : Given Float := .value 0.042
  /-- Beyond the seconds that a delay asks for. -/
  settleMargin : Float := 1.0
  /-- Between two looks for a key. -/
  perPoll : Float := 0.042
  deriving Repr, BEq

namespace Clock

/-- Sleeps. An interrupted sleep lets nothing else happen. -/
def sleep (duration : Float) : Run Unit := do
  record (.slept duration)
  reach .sleep
  let rig ← look
  Echo.deliverAll (rig.plan.arrivals rig.tally.sleep)
  Console.passTime

/-- Sleeps as long as is given. -/
def pause : Given Float → Run Unit
  | .value duration => sleep duration
  | .blank => fail .blankPause

/-- The length of the pause after a delay directive, unless it is beyond every float. -/
def settleTime? (pacing : Pacing) (seconds : Int) : Option Float :=
  (Number.floatOfInt? seconds).map (· + pacing.settleMargin)

/-- The record of a pause after a delay directive. -/
def settleNote (duration : Float) : String := s!"Settling for {Number.placesText 1 duration}s"

/-- Waits until the adapter has paused for the seconds. -/
def settle (pacing : Pacing) (seconds : Int) : Run Unit :=
  match settleTime? pacing seconds with
  | none => fail .durationTooLong
  | some duration => do
    log .debug (settleNote duration)
    sleep duration

end Clock

end KeyFeed
