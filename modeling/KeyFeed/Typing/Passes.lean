/-
This file sends whole scripts, once or again and again. A script without any text
is one empty line, and is never repeated. Repeating has no end of its own, so a
bound says how many passes are made at most.
-/

import KeyFeed.Script.Buffer
import KeyFeed.Typing.Sender

namespace KeyFeed

open KeyFeed.Run KeyFeed.Script

/-- Who is told when another pass begins. -/
inductive PassNotice where
  /-- Nobody. -/
  | silent
  /-- An observer, who interrupts the pass of one number and closes the link at that of
  another. -/
  | observer (stopAt closeAt : Option Nat)
  /-- The user, on the standard output. -/
  | output
  deriving Repr, DecidableEq

namespace PassNotice

/-- Tells that a pass begins. -/
def tell (notice : PassNotice) (pass : Nat) : Run Unit :=
  match notice with
  | silent => pure ()
  | observer stopAt closeAt => do
    record (.repeated pass)
    if stopAt = some pass then fail (.interrupted "stop")
    else if closeAt = some pass then Link.closeLink
  | output => do
    let rig ← look
    record (.printed s!"  REPEATING {pass} [{rig.plan.date}]  \n")

/-- Begins another pass, and tells that it begins. -/
def nextPass (notice : PassNotice) : Run Unit := do
  change fun rig => { rig with pass := rig.pass + 1 }
  let rig ← look
  log .info s!"Repeating script, pass {rig.pass}"
  notice.tell rig.pass

/-- The last pass that the observer waits for. -/
def horizon : PassNotice → Nat
  | observer stopAt closeAt => max (stopAt.getD 0) (closeAt.getD 0)
  | _ => 0

end PassNotice

namespace Sender

/-- Sends the lines that are left, the last one too when it is empty. -/
def sendLines (sender : Sender) (buffer : Buffer) : Run Unit := do
  let _ ← sender.sendLine buffer.nextLine.1
  if _ : buffer.nextLine.2.remaining = [] then pure ()
  else sendLines sender buffer.nextLine.2
termination_by buffer.remaining.length
decreasing_by
  refine splitLine_rest_length_lt fun empty => ?_
  rename_i left
  exact left (by simp [Buffer.nextLine, empty, splitLine])

/-- Sends a script again and again, at most so many times. -/
def sendPasses (sender : Sender) (notice : PassNotice) (buffer : Buffer) :
    (bound : Nat) → Run Unit
  | 0 => fail .unfinished
  | bound + 1 => do
    sender.sendLines buffer
    notice.nextPass
    sendPasses sender notice buffer.reload bound

/-- The most passes that are made. A point that every pass reaches has been reached so often by
then that the faults planned for it have come up, and a link that was lost has been noticed; a
script that is still repeated would be repeated without end. -/
def passBound (plan : Plan) (notice : PassNotice) : Nat :=
  plan.horizon + notice.horizon + 3

/-- Sends a script, once or repeatedly with a bound on the passes. -/
def sendWithin (sender : Sender) (bound : Nat) (notice : PassNotice) (text : List Char)
    (again : Bool) : Run Unit := do
  if again && text.isEmpty then log .warning "Script is empty, ignoring repeat"
  change fun rig => { rig with pass := 1 }
  if again && !text.isEmpty then sender.sendPasses notice (Buffer.ofText text) bound
  else sender.sendLines (Buffer.ofText text)

/-- Sends a script, once or repeatedly. -/
def sendScript (sender : Sender) (notice : PassNotice) (text : List Char) (again : Bool) :
    Run Unit := do
  let rig ← look
  sender.sendWithin (passBound rig.plan notice) notice text again

end Sender

end KeyFeed
