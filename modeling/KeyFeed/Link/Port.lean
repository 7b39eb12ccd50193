/-
This file holds the calls of the link to its port, without any regard to who else
uses it. A failure of the transport drops the port: the link forgets it first and
closes it then, so that nobody finds a port that is being closed.
-/

import KeyFeed.Rig.Run

namespace KeyFeed.Link

open KeyFeed.Run

/-- Calls the port to close. -/
def shutPort : Run Unit := do
  record .portClosed
  reach .close

/-- Drops the port after a failure of the transport, and closes it in the given way. Another
failure of the transport while it closes is passed over. -/
def dropPort (closing : Run Unit) : Run Unit := do
  let rig ← look
  if rig.port.isHeld then
    change fun rig => { rig with port := .none }
    match ← attempt closing with
    | .ok () => pure ()
    | .error failure =>
      if failure.isTransport then log .debug "Ignoring close error after fault"
      else fail failure
  log .info "Link closed due to error"

/-- The link holds a port, or the activity fails. -/
def requirePort : Run Unit := do
  let rig ← look
  if rig.port.isHeld then pure () else fail (.link (.notOpen rig.settings.port))

/-- Goes on with what a read of the port gave. -/
def receive (arrival : Arrival) : Run (List UInt8) :=
  match arrival with
  | .bytes bytes => pure bytes
  | .failure failure =>
    if failure.isTransport then do
      log .error s!"Read error: {failure.message}"
      dropPort shutPort
      fail (.link (.reading failure.message))
    else fail failure

end KeyFeed.Link
