/-
This file captures keys from the console. While the console is ready for single
keys a reader queues what it gives. The end of the input and a failed read count
as the cancel key and end the reader; so does restoring the console.
-/

import KeyFeed.Rig.Run

namespace KeyFeed.Console

open KeyFeed.Run

/-- What ends the reader. -/
inductive ReaderEnd where
  /-- The input has come to its end. -/
  | inputClosed
  /-- A read failed. -/
  | failed (failure : Failure)
  deriving Repr, DecidableEq

/-- The keys that the reader takes from keystrokes, and what ends it among them. All that comes
after the end is lost. -/
def received : List Keystroke → List Key × Option ReaderEnd
  | [] => ([], none)
  | .key key :: rest =>
    let (keys, ending) := received rest
    (key.received :: keys, ending)
  | .endOfInput :: _ => ([], some .inputClosed)
  | .failure failure :: _ => ([], some (.failed failure))

/-- Changes the keyboard. -/
def changeKeyboard (update : Keyboard → Keyboard) : Run Unit :=
  change fun rig => { rig with keyboard := update rig.keyboard }

/-- Queues keys. -/
def queue (keys : List Key) : Run Unit :=
  changeKeyboard fun keyboard => { keyboard with keys := keyboard.keys.append keys }

/-- The reader is there no longer. -/
def dropReader : Run Unit := changeKeyboard fun keyboard => { keyboard with reading := false }

/-- The reader ends in good order. -/
def endReader : Run Unit := do
  log .debug "Keyboard reader exiting"
  dropReader

/-- The reader meets what ends it. Unless that is an interruption, which says no word, it queues
the cancel key before. -/
def meetEnd : ReaderEnd → Run Unit
  | .inputClosed => do
    log .info "Console input closed"
    queue [Key.escape]
    endReader
  | .failed failure =>
    if failure.isOrdinary then do
      log .error s!"Keyboard read error: {failure.message}"
      queue [Key.escape]
      endReader
    else dropReader

/-- Hands keystrokes to the reader. Without a reader they are lost. -/
def deliver (keystrokes : List Keystroke) : Run Unit := do
  let rig ← look
  if rig.keyboard.reading then
    let (keys, ending) := received keystrokes
    queue keys
    match ending with
    | none => pure ()
    | some ending => meetEnd ending

/-- The user makes keystrokes, which are lost unless the console is ready for them. -/
def type (keystrokes : List Keystroke) : Run Unit := do
  let rig ← look
  if rig.keyboard.active then deliver keystrokes

/-- Asks for a console and makes it ready for single keys. -/
def setUp : Run Unit := do
  record .consoleCreated
  reach .consoleCreation
  record .consoleSetUp
  reach .consoleSetUp

/-- Makes the console ready and starts the reader, unless that is done already. -/
def start : Run Unit := do
  let rig ← look
  if rig.keyboard.active then pure ()
  else
    match ← attempt setUp with
    | .ok () => do
      log .debug "Keyboard reader started"
      changeKeyboard fun keyboard => { keyboard with active := true, reading := true }
    | .error failure =>
      if failure.isConsole then do
        log .error s!"Cannot open console: {failure.message}"
        fail (.consoleUnavailable failure.message)
      else fail failure

/-- Restores the console, and then wakes and ends the reader. Nothing happens unless the console
is ready. A failure to restore it goes to the log only; an interruption leaves the reader
waiting. -/
def stop : Run Unit := do
  let rig ← look
  if rig.keyboard.active then
    changeKeyboard fun keyboard => { keyboard with active := false }
    record .consoleRestored
    match ← attempt (reach .consoleRestoring) with
    | .ok () => pure ()
    | .error failure =>
      if failure.isOrdinary then log .error s!"Error restoring console: {failure.message}"
      else fail failure
    if rig.keyboard.reading then endReader

/-- Reads a pending key, if there is one. -/
def readKey : Run (Option Key) := do
  let rig ← look
  match rig.keyboard.keys.read? with
  | none => return none
  | some (key, keys) => do
    changeKeyboard fun keyboard => { keyboard with keys := keys }
    return some key

/-- During a sleep the next batch of keystrokes is made. After the last one the input ends; when
nobody reads it any more, the user interrupts the program. -/
def passTime : Run Unit := do
  let rig ← look
  if rig.keyboard.active then
    match rig.batches with
    | batch :: rest => do
      change fun rig => { rig with batches := rest }
      deliver batch
    | [] =>
      if rig.keyboard.reading then deliver [.endOfInput] else fail (.interrupted "stalled")

end KeyFeed.Console
