/-
This file holds what can be observed of a run: the calls to the port, the clock
and the console, the text that goes out, and the log. What is written to the two
output streams of the program can be read off the events.
-/

import KeyFeed.Link.Settings

namespace KeyFeed

/-- The weight of a log record. -/
inductive Level where
  | debug
  | info
  | warning
  | error
  deriving Repr, DecidableEq

namespace Level

/-- The name of a level. -/
def name : Level → String
  | debug => "DEBUG"
  | info => "INFO"
  | warning => "WARNING"
  | error => "ERROR"

/-- The rank of a level among all. -/
def rank : Level → Nat
  | debug => 0
  | info => 1
  | warning => 2
  | error => 3

/-- A record of the level is kept by a log that starts at the least level. -/
def reaches (level least : Level) : Bool := least.rank ≤ level.rank

end Level

/-- One thing that can be observed. -/
inductive Event where
  /-- A port is asked for. -/
  | opening (settings : Link.Settings)
  /-- The port takes the bytes. -/
  | wrote (bytes : List UInt8)
  /-- The port refuses the bytes. -/
  | writeFailed (bytes : List UInt8)
  /-- The port is asked to empty its buffer. -/
  | flushed
  /-- The port is closed. -/
  | portClosed
  /-- The sender pauses. -/
  | slept (duration : Float)
  /-- The echo listener pauses. -/
  | backedOff (duration : Float)
  /-- A text from the port is shown to an observer. -/
  | echoed (text : List Char)
  /-- The observer is told of another pass. -/
  | repeated (pass : Nat)
  /-- A console is asked for. -/
  | consoleCreated
  /-- The console is made ready for single keys. -/
  | consoleSetUp
  /-- The console gets its own settings back. -/
  | consoleRestored
  /-- A record goes to the log. -/
  | logged (level : Level) (message : String)
  /-- From now on the log shows levels, and keeps records from the least level on. -/
  | loggingStarted (least : Level)
  /-- A text goes to the standard output. -/
  | printed (text : String)
  /-- A text goes to the standard error output. -/
  | reported (text : String)
  deriving Repr, BEq

namespace Event

/-- The part of the standard output that an event gives. -/
def outputText : Event → String
  | printed text => text
  | _ => ""

/-- The text of the events on the standard output. -/
def output (events : List Event) : String := String.join (events.map outputText)

/-- The part of the standard error output that an event gives, when the log keeps records from
the least level on. A log that is not started yet shows the messages of warnings and errors
alone. -/
def errorText (least : Option Level) : Event → String
  | reported text => text
  | logged level message =>
    match least with
    | none => if level.reaches .warning then message ++ "\n" else ""
    | some least => if level.reaches least then s!"{level.name} - {message}\n" else ""
  | _ => ""

/-- The least level that the log keeps after an event. -/
def leastAfter (least : Option Level) : Event → Option Level
  | loggingStarted level => some level
  | _ => least

/-- The text of the events on the standard error output. -/
def errorOutput (least : Option Level) : List Event → String
  | [] => ""
  | event :: rest => event.errorText least ++ errorOutput (event.leastAfter least) rest

end Event

end KeyFeed
