/-
This file opens, closes, writes and reads the link. A failure of the transport
while writing or reading drops the port and becomes a fault of the link; every
other failure passes through and leaves the port as it is. Closing a port while
the echo listener reads it lets that read fail first.

It also asks the machine for its serial ports. A system that cannot answer counts
as one without ports.
-/

import KeyFeed.Echo

namespace KeyFeed.Link

open KeyFeed.Run

/-- Why the listener's read fails when its port is closed. -/
def portClosed : Failure := .transport "port closed"

/-- Closes the port, and lets the listener's read of it fail. -/
def closePort : Run Unit := do
  shutPort
  Echo.deliver (.failure portClosed)

/-- Puts into the log what the link was opened with. -/
def logOpened : Run Unit := do
  let rig ← look
  let short ← orFail (fun refusal => .stopBits refusal) rig.settings.describe
  log .info s!"Opened {short}"

/-- Opens the link. It is open already when its settings turn out to have no short form. -/
def openLink : Run Unit := do
  let rig ← look
  if rig.port.isOpen then log .warning "Already open"
  else
    record (.opening rig.settings)
    match ← attempt (reach .opening) with
    | .ok () => do
      change fun rig => { rig with port := .held true }
      logOpened
    | .error failure =>
      if failure.isRefusedOpening then do
        log .error s!"Failed to open {rig.settings.port}: {failure.message}"
        fail (.linkUnavailable failure.message rig.settings.port)
      else fail failure

/-- Closes the port. A failure of the transport goes to the log only. -/
def closeQuietly : Run Unit := do
  match ← attempt closePort with
  | .ok () => pure ()
  | .error failure =>
    if failure.isTransport then log .error s!"Error closing serial port: {failure.message}"
    else fail failure

/-- Closes the link. Afterwards it holds no port, whatever the port does. -/
def closeLink : Run Unit := do
  let rig ← look
  if rig.port.isHeld then
    ensuring closeQuietly (change fun rig => { rig with port := .none })
    log .info s!"Closed {rig.settings.port}"

/-- Hands bytes to the port. -/
def put (bytes : List UInt8) : Run Unit := do
  match ← attempt (reach .write) with
  | .ok () => record (.wrote bytes)
  | .error failure => do
    record (.writeFailed bytes)
    fail failure

/-- Waits until the port has taken all bytes. -/
def flush : Run Unit := do
  record .flushed
  reach .flush

/-- Writes bytes. -/
def write (bytes : List UInt8) : Run Unit := do
  requirePort
  match ← attempt (do put bytes; flush) with
  | .ok () => pure ()
  | .error failure =>
    if failure.isTransport then do
      log .error s!"Write error: {failure.message}"
      dropPort closePort
      fail (.link (.writing failure.message))
    else fail failure

/-- What the next read of the port gives without a listener: the next arrival in the queue; else
a failure when the port has gone away, and nothing otherwise. -/
def nextArrival : Run Arrival := do
  let rig ← look
  match rig.queuedArrivals with
  | arrival :: rest => do
    change fun rig => { rig with queuedArrivals := rest }
    return arrival
  | [] => return if rig.port.isOpen then .bytes [] else .failure portClosed

/-- Reads the link. Nothing comes when the time limit passes. -/
def read : Run (Option (List UInt8)) := do
  requirePort
  let bytes ← receive (← nextArrival)
  return if bytes.isEmpty then none else some bytes

/-- Writes bytes to the link, which is opened before and closed after. -/
def writeOnce (bytes : List UInt8) : Run Unit := do
  openLink
  ensuring (write bytes) closeLink

/-- More arrivals wait for reads without a listener. -/
def feed (arrivals : List Arrival) : Run Unit :=
  change fun rig => { rig with queuedArrivals := rig.queuedArrivals ++ arrivals }

/-- The port goes away. -/
def unplug : Run Unit :=
  change fun rig =>
    { rig with port := if rig.port.isHeld then .held false else .none }

/-! ### The ports of the machine -/

/-- The ports of the machine by name. -/
def findPorts : Run (List PortInfo) := do
  let rig ← look
  match rig.plan.ports with
  | .ok ports => return sortPorts ports
  | .error failure =>
    if failure.isSystem then do
      log .warning s!"Could not enumerate serial ports: {failure.message}"
      return []
    else fail failure

/-- The port is an address, or the machine has it. -/
def isAvailable (port : String) : Run Bool := do
  if isAddress port then return true
  return isListed (← findPorts) port

end KeyFeed.Link
