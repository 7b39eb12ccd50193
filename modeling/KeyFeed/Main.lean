/-
This file is the command line. It rehearses the program on a port that takes every
byte and sends nothing back, and then performs what was observed, in the same
order: it writes to the device, pauses, and prints. The keys are read from the
standard input before.
-/

import KeyFeed.Command.Program

namespace KeyFeed.Main

open KeyFeed.Command

/-- The file at a path, as opening it went. -/
def openingOf (path : String) : IO Script.Opening := do
  try
    let bytes ← IO.FS.readBinFile path
    return fun asked => if asked = path then .ok bytes.toList else .error .missing
  catch _ => return fun _ => .error .missing

/-- The device at a path, or why it cannot be opened. -/
def deviceOf (path : String) : IO (Except String IO.FS.Handle) := do
  try
    return .ok (← IO.FS.Handle.mk path .write)
  catch failure => return .error (toString failure)

/-- The keys that wait in the standard input, as one batch. -/
def waitingKeys : IO (List Keystroke) := do
  let bytes ← (← IO.getStdin).readToEnd
  return bytes.toList.map fun char => .key [char]

/-- Performs one event. -/
def perform (device : Option IO.FS.Handle) (least : Option Level) (event : Event) : IO Unit := do
  match event with
  | .wrote bytes =>
    if let some handle := device then
      handle.write (ByteArray.mk bytes.toArray)
  | .flushed => if let some handle := device then handle.flush
  | .slept duration => IO.sleep (duration * 1000).toUInt32
  | _ => pure ()
  let out ← IO.getStdout
  out.putStr event.outputText
  out.flush
  (← IO.getStderr).putStr (event.errorText least)

/-- Performs events in their order. -/
def performAll (device : Option IO.FS.Handle) : Option Level → List Event → IO Unit
  | _, [] => pure ()
  | least, event :: rest => do
    perform device least event
    performAll device (event.leastAfter least) rest

/-- What was found before the rehearsal. -/
structure Findings where
  opening : Script.Opening := fun _ => .error .missing
  device : Option IO.FS.Handle := none
  faults : List PlannedFault := []
  keys : List Keystroke := []

/-- Looks for what the options name. -/
def findingsOf (options : Options) : IO Findings := do
  let opening ← openingOf (options.file.getD "")
  let keys ← if options.noInteractive then pure [] else waitingKeys
  match ← deviceOf options.port with
  | .ok device => return { opening := opening, device := some device, keys := keys }
  | .error message =>
    return { opening := opening, faults := [⟨.opening, 1, .transport message⟩], keys := keys }

/-- Runs the program and gives its status. -/
def runProgram (arguments : List String) : IO UInt32 := do
  let findings ← match readArguments arguments with
    | .ok options => findingsOf options
    | .error _ => pure {}
  let rig := start { faults := findings.faults } [] [findings.keys]
  let (outcome, last) := run findings.opening arguments rig
  performAll findings.device none last.events.toList
  match outcome with
  | .ok status => return UInt32.ofNat status.code
  | .error failure => do
    (← IO.getStderr).putStrLn failure.message
    return 1

end KeyFeed.Main

/-- The command line. -/
def main (arguments : List String) : IO UInt32 := KeyFeed.Main.runProgram arguments
