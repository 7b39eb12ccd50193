/-
This file holds the echo listener, which reads the port while a session is open
and shows what arrives. It ends with the session, or at the first fault of the
link, which ends the session. After any other failure it pauses and reads on.
-/

import KeyFeed.Link.Port

namespace KeyFeed.Echo

open KeyFeed.Run

/-- The pause after a failure, in seconds. -/
def pause : Float := 0.1

/-- The text of bytes from the port: each byte is the character with its code. -/
def textOf (bytes : List UInt8) : List Char := bytes.map fun byte => Char.ofNat byte.toNat

/-- Displays a text. -/
def display (text : List Char) : Run Unit := do
  let rig ← look
  match rig.sink with
  | .observer => do
    record (.echoed text)
    reach .sink
  | .output => record (.printed (String.ofList text))

/-- The listener ends with the session. -/
def finish : Run Unit := do
  log .debug "Echo drainer exiting"
  change fun rig => { rig with listener := .ended none }

/-- The listener ends the session because of a fault of the link. -/
def giveUp (fault : LinkFault) : Run Unit := do
  log .error s!"Link failed, ending session: {fault.message}"
  change fun rig => { rig with running := false }
  log .debug "Echo drainer exiting"
  change fun rig => { rig with listener := .ended (some fault) }

/-- The listener reads again, if the session goes on and the link holds a port. -/
def readOn : Run Unit := do
  let rig ← look
  if rig.running then
    if rig.port.isHeld then pure () else giveUp (.notOpen rig.settings.port)
  else finish

/-- Takes what a read gave, and shows it if there is something. -/
def take (arrival : Arrival) : Run Unit := do
  let bytes ← Link.receive arrival
  if bytes.isEmpty then pure () else display (textOf bytes)

/-- What the listener does from the end of one read to the beginning of the next, or to its own
end. An interruption ends it without a word. -/
def advance (arrival : Arrival) : Run Unit := do
  match ← attempt (take arrival) with
  | .ok () => readOn
  | .error (.link fault) => giveUp fault
  | .error failure =>
    if failure.isOrdinary then do
      let rig ← look
      if rig.running then log .error s!"Echo drainer error: {failure.message}"
      record (.backedOff pause)
      readOn
    else change fun rig => { rig with listener := .ended none }

/-- Hands an arrival to the listener; without one it is lost. -/
def deliver (arrival : Arrival) : Run Unit := do
  let rig ← look
  if rig.listener = .listening then advance arrival

/-- Hands arrivals to the listener one by one. -/
def deliverAll : List Arrival → Run Unit
  | [] => pure ()
  | arrival :: rest => do
    deliver arrival
    deliverAll rest

/-- A new listener begins to read. -/
def start : Run Unit := do
  log .debug "Echo drainer started"
  change fun rig => { rig with listener := .listening }

/-- Waits for the listener to end. Its read still gives one more arrival. -/
def join : Run Unit := do
  let rig ← look
  if rig.listener = .listening then
    match rig.finalArrivals with
    | [] => advance (.bytes [])
    | arrival :: rest => do
      change fun rig => { rig with finalArrivals := rest }
      advance arrival

end KeyFeed.Echo
