/-
This file holds the session: the link together with the listener and, while the
user types, the keyboard. Closing a session waits for the listener before it
closes the link. The interactive phase forwards keys until the user cancels or
the link is gone.
-/

import KeyFeed.Typing.Passes

namespace KeyFeed.Session

open KeyFeed.Run

/-- Opens the link and starts the listener. -/
def openSession : Run Unit := do
  Link.openLink
  change fun rig => { rig with running := true }
  Echo.start
  log .debug "Session started"

/-- Ends the listener and then closes the link. -/
def closeSession : Run Unit := do
  change fun rig => { rig with running := false }
  Echo.join
  Link.closeLink
  log .debug "Session closed"

/-- The session goes on and its link can be written. -/
def isLive : Run Bool := do
  let rig ← look
  return rig.running && rig.port.isOpen

/-- Forwards keys, in at most so many steps. A step reads a key, or waits when none is pending. -/
def forward (sender : Sender) : (bound : Nat) → Run Unit
  | 0 => fail .unfinished
  | bound + 1 => do
    if ← isLive then
      match ← Console.readKey with
      | none => do
        Clock.sleep sender.pacing.perPoll
        forward sender bound
      | some key =>
        if key.isCancel then do
          log .info "Cancel key pressed, ending session"
          change fun rig => { rig with running := false }
        else do
          sender.sendKey key
          forward sender bound

/-- The count of steps that are enough for the pending keys and the batches to come: one for each
key, one for each wait, and a few for the end of the input. -/
def forwardBound (rig : Rig) : Nat :=
  let batches := rig.batches.foldl (fun sum batch => sum + batch.length + 1) 0
  rig.keyboard.keys.pending.length + batches + 4

/-- The interactive phase: makes the console ready, forwards keys, and restores the console
however that ends. -/
def interact (sender : Sender) : Run Unit := do
  Console.start
  let rig ← look
  ensuring (forward sender (forwardBound rig)) Console.stop

/-- A new keyboard, at which the user will make the batches of keystrokes. -/
def freshKeyboard (batches : List (List Keystroke)) : Run Unit :=
  change fun rig => { rig with keyboard := {}, batches := batches }

/-- Sends a script in a session that is opened before and closed after. -/
def sendOnce (sender : Sender) (text : List Char) : Run Unit := do
  openSession
  ensuring (sender.sendScript .silent text false) closeSession

end KeyFeed.Session
